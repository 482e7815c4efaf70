import PageBinding.Markup.Builder
import PageBinding.Markup.Doctype
import PageBinding.Markup.Token

/-!
How each token changes a page, by the mode that the page is in.

A rule either uses a token up or gives back the token to be read once more, by the rules of the
mode it has gone to.
-/
namespace PageBinding.Markup

open Text Build

abbrev Left := Option Token

def used : Build Left :=
  return none

def again (token : Token) : Build Left :=
  return some token

def splitSpace (data : String) : String × String :=
  (String.ofList (data.toList.takeWhile isSpace), String.ofList (data.toList.dropWhile isSpace))

def isSpaces (data : String) : Bool :=
  data.toList.all isSpace

def withoutNul (data : String) : String :=
  String.ofList (data.toList.filter (· ≠ '\x00'))

def withoutFirstLineEnd (data : String) : String :=
  let cs := data.toList
  let cs := if cs.head? = some '\r' then cs.drop 1 else cs
  String.ofList (if cs.head? = some '\n' then cs.drop 1 else cs)

def isHidden (attrs : List TagAttr) : Bool :=
  attrs.any fun a => a.key = "type" && sameFolded a.value "hidden"

/-! ## Before the body -/

def documentComment (data : String) : Build Left := do
  append 0 (← create (.comment data))
  used

def initial (token : Token) : Build Left := do
  let old : Build Unit := modify fun b => { b with old := true, mode := .beforeHtml }
  match token with
  | .text data =>
      let rest := (splitSpace data).2
      if rest = "" then used
      else
        old
        again (.text rest)
  | .comment data => documentComment data
  | .doctype data =>
      let d := Doctype.ofText data
      append 0 (← create (.doctype d.name d.attrs))
      modify fun b => { b with old := d.old, mode := .beforeHtml }
      used
  | token =>
      old
      again token

def openHtml (attrs : List TagAttr) : Build Unit := do
  addElement "html" attrs
  setMode .beforeHead

def beforeHtml (token : Token) : Build Left := do
  match token with
  | .doctype _ => used
  | .comment data => documentComment data
  | .text data =>
      let rest := (splitSpace data).2
      if rest = "" then used
      else
        openHtml []
        again (.text rest)
  | .opening "html" attrs _ =>
      openHtml attrs
      used
  | .closing name =>
      if ["head", "body", "html", "br"].contains name then
        openHtml []
        again token
      else used
  | token =>
      openHtml []
      again token

def openHead (attrs : List TagAttr) : Build Unit := do
  addElement "head" attrs
  modify fun b => { b with head := some b.top, mode := .inHead }

def mergeAttrs (id : Nat) (attrs : List TagAttr) : Build Unit :=
  changeItem id fun i =>
    match i.shape with
    | .element name space own =>
        let merged := attrs.foldl (fun own a =>
          if own.any (·.attr.key = a.key) then own else own ++ [a.placed space]) own
        { i with shape := .element name space merged }
    | _ => i

def mergeHtml (attrs : List TagAttr) : Build Left := do
  let b ← get
  if !b.hasOpen "template" then
    match b.opened.getLast? with
    | some id => mergeAttrs id attrs
    | none => return none
  used

def beforeHead (token : Token) : Build Left := do
  match token with
  | .text data =>
      let rest := (splitSpace data).2
      if rest = "" then used
      else
        openHead []
        again (.text rest)
  | .opening "head" attrs _ =>
      openHead attrs
      used
  | .opening "html" attrs _ => mergeHtml attrs
  | .closing name =>
      if ["head", "body", "html", "br"].contains name then
        openHead []
        again token
      else used
  | .comment data =>
      addComment data
      used
  | .doctype _ => used
  | token =>
      openHead []
      again token

def keepSpace (token : Token) : Build Left := do
  match token with
  | .text data =>
      let (space, rest) := splitSpace data
      addText space
      if rest = "" then used else again (.text rest)
  | token => again token

def inHead (token : Token) : Build Left := do
  let leave (token : Token) : Build Left := do
    pop
    setMode .afterHead
    again token
  match token with
  | .text _ =>
      match ← keepSpace token with
      | none => used
      | some token => leave token
  | .opening name attrs _ =>
      if name = "html" then mergeHtml attrs
      else if ["base", "basefont", "bgsound", "link", "meta"].contains name then
        addEmpty name attrs
        used
      else if ["noscript", "script", "title", "noframes", "style"].contains name then
        addElement name attrs
        readText
        used
      else if name = "head" then used
      else if name = "template" then
        let b ← get
        if b.opened.any fun id => b.space id ≠ "" then
          setMode .ignoring
          used
        else
          addElement name attrs
          mark
          modify fun b =>
            { b with
              framesetOk := false
              mode := .inTemplate
              templates := .inTemplate :: b.templates }
          used
      else leave token
  | .closing name =>
      if name = "head" then
        pop
        setMode .afterHead
        used
      else if ["body", "html", "br"].contains name then leave token
      else if name = "template" then
        if (← get).hasOpen "template" then closeTemplate
        used
      else used
  | .comment data =>
      addComment data
      used
  | .doctype _ => used
  | .done => leave token

def afterHead (token : Token) : Build Left := do
  let enterBody (token : Token) : Build Left := do
    addElement "body" []
    modify fun b => { b with framesetOk := true, mode := .inBody }
    again token
  match token with
  | .text _ =>
      match ← keepSpace token with
      | none => used
      | some token => enterBody token
  | .opening name attrs _ =>
      if name = "html" then mergeHtml attrs
      else if name = "body" then
        addElement name attrs
        noFrameset
        setMode .inBody
        used
      else if name = "frameset" then
        addElement name attrs
        setMode .inFrameset
        used
      else if headElements.contains name then
        -- what comes too late is still put into the head
        match (← get).head with
        | none => inHead token
        | some head =>
            modify fun b => { b with opened := head :: b.opened }
            let left ← inHead token
            unopen head
            return left
      else if name = "head" then used
      else enterBody token
  | .closing name =>
      if ["body", "html", "br"].contains name then enterBody token
      else if name = "template" then inHead token
      else used
  | .comment data =>
      addComment data
      used
  | .doctype _ => used
  | .done => enterBody token

/-! ## The body -/

def closeItems (names : List String) : Build Unit :=
  modify fun b =>
    let rec go : List Nat → List Nat
      | [] => b.opened
      | id :: around =>
          if names.contains (b.name id) then around
          else if ["address", "div", "p"].contains (b.name id) then go around
          else if b.special id then b.opened
          else go around
    { b with opened := go b.opened }

def openInBody (name : String) (attrs : List TagAttr) (selfClosing : Bool) : Build Left := do
  let token := Token.opening name attrs selfClosing
  let b ← get
  if name = "html" then mergeHtml attrs
  else if headElements.contains name then inHead token
  else if name = "body" then
    if !b.hasOpen "template" then
      match b.opened.reverse with
      | _ :: body :: _ =>
          if b.name body = "body" then
            noFrameset
            mergeAttrs body attrs
      | _ => return none
    used
  else if name = "frameset" then
    match b.opened.reverse with
    | html :: body :: _ =>
        if b.framesetOk && b.name body = "body" then
          detach body
          modify fun b => { b with opened := [html] }
          addElement name attrs
          setMode .inFrameset
        used
    | _ => used
  else if blockElements.contains name || name = "p" then
    closeParagraph
    addElement name attrs
    used
  else if headings.contains name then
    closeParagraph
    if headings.contains (← get).topName then pop
    addElement name attrs
    used
  else if name = "pre" || name = "listing" then
    closeParagraph
    addElement name attrs
    noFrameset
    used
  else if name = "form" then
    if b.form.isSome && !b.hasOpen "template" then used
    else
      closeParagraph
      addElement name attrs
      if !(← get).hasOpen "template" then modify fun b => { b with form := some b.top }
      used
  else if name = "li" || name = "dd" || name = "dt" then
    noFrameset
    closeItems (if name = "li" then ["li"] else ["dd", "dt"])
    closeParagraph
    addElement name attrs
    used
  else if name = "plaintext" then
    closeParagraph
    addElement name attrs
    used
  else if name = "button" then
    let _ ← popUntil .ordinary ["button"]
    reopenFormatting
    addElement name attrs
    noFrameset
    used
  else if name = "a" then
    let recent := (b.formatting.takeWhile Option.isSome).filterMap id
    match recent.find? fun id => b.name id = "a" with
    | some id =>
        closeFormatting "a"
        unopen id
        unformat id
    | none => pure ()
    reopenFormatting
    addFormatting name attrs
    used
  else if formattingElements.contains name then
    reopenFormatting
    addFormatting name attrs
    used
  else if name = "nobr" then
    reopenFormatting
    if (← get).inScope .ordinary ["nobr"] then
      closeFormatting "nobr"
      reopenFormatting
    addFormatting name attrs
    used
  else if ["applet", "marquee", "object"].contains name then
    reopenFormatting
    addElement name attrs
    mark
    noFrameset
    used
  else if name = "table" then
    if !b.old then closeParagraph
    addElement name attrs
    noFrameset
    setMode .inTable
    used
  else if ["area", "br", "embed", "img", "input", "keygen", "wbr"].contains name then
    reopenFormatting
    addEmpty name attrs
    if !(name = "input" && isHidden attrs) then noFrameset
    used
  else if ["param", "source", "track"].contains name then
    addEmpty name attrs
    used
  else if name = "hr" then
    closeParagraph
    addEmpty name attrs
    noFrameset
    used
  else if name = "image" then again (.opening "img" attrs selfClosing)
  else if name = "textarea" then
    addElement name attrs
    noFrameset
    readText
    used
  else if name = "xmp" then
    closeParagraph
    reopenFormatting
    noFrameset
    addElement name attrs
    readText
    used
  else if name = "iframe" then
    noFrameset
    addElement name attrs
    readText
    used
  else if name = "noembed" || name = "noscript" then
    addElement name attrs
    readText
    used
  else if name = "select" then
    reopenFormatting
    addElement name attrs
    noFrameset
    setMode .inSelect
    used
  else if name = "optgroup" || name = "option" then
    if b.topName = "option" then pop
    reopenFormatting
    addElement name attrs
    used
  else if ["rb", "rtc", "rp", "rt"].contains name then
    if b.inScope .ordinary ["ruby"] then
      closeImplied (if name = "rp" || name = "rt" then ["rtc"] else [])
    addElement name attrs
    used
  else if name = "math" || name = "svg" then
    reopenFormatting
    enter (← create (.element name name (attrs.map (·.foreign name))))
    if selfClosing then pop
    used
  else if tableParts.contains name || name = "frame" || name = "head" then used
  else
    reopenFormatting
    addElement name attrs
    used

def leaveForeign : Build Unit :=
  modify fun b =>
    let isHome (id : Nat) : Bool :=
      b.space id = "" || holdsPage (b.space id) (b.name id) (b.attrs id) ||
        holdsText (b.space id) (b.name id)
    match b.opened.dropWhile fun id => !isHome id with
    | [] => b
    | opened => { b with opened }

def closeInBody (name : String) : Build Left := do
  let b ← get
  if name = "body" then
    if b.inScope .ordinary ["body"] then setMode .afterBody
    used
  else if name = "html" then
    if b.inScope .ordinary ["body"] then
      setMode .afterBody
      again (.closing name)
    else used
  else if blockElements.contains name || ["button", "listing", "pre", "dd", "dt"].contains name then
    let _ ← popUntil .ordinary [name]
    used
  else if name = "form" then
    let found := b.search .ordinary ["form"] b.opened
    if b.hasOpen "template" then
      if found.isSome then
        closeImplied []
        let _ ← popUntil .ordinary ["form"]
      used
    else
      set { b with form := none }
      match b.form, found with
      | some form, some (id, _) =>
          if id = form then
            closeImplied []
            unopen form
          used
      | _, _ => used
  else if name = "p" then
    if !b.inScope .button ["p"] then
      leaveForeign
      addElement "p" []
    closeParagraph
    used
  else if name = "li" then
    let _ ← popUntil .listItem ["li"]
    used
  else if headings.contains name then
    let _ ← popUntil .ordinary headings
    used
  else if formattingElements.contains name || name = "a" || name = "nobr" then
    closeFormatting name
    used
  else if ["applet", "marquee", "object"].contains name then
    if ← popUntil .ordinary [name] then clearToMark
    used
  else if name = "br" then again (.opening "br" [] false)
  else if name = "template" then inHead (.closing name)
  else
    closeOther name
    used

def inBody (token : Token) : Build Left := do
  match token with
  | .text data =>
      let b ← get
      let fresh := (b.item b.top).children.isEmpty
      let data :=
        if fresh && (b.topName = "pre" || b.topName = "listing") then withoutFirstLineEnd data
        else data
      let data := withoutNul data
      if data = "" then used
      else
        reopenFormatting
        addText data
        if !isSpaces data then noFrameset
        used
  | .opening name attrs selfClosing => openInBody name attrs selfClosing
  | .closing name => closeInBody name
  | .comment data =>
      addComment data
      used
  | .doctype _ => used
  | .done =>
      if (← get).templates.isEmpty then used
      else
        setMode .inTemplate
        again token

def inText (token : Token) : Build Left := do
  let leave : Build Unit := do
    pop
    modify fun b => { b with mode := b.afterText }
  match token with
  | .text data =>
      let b ← get
      let fresh := (b.item b.top).children.isEmpty
      addText (if fresh && b.topName = "textarea" then withoutFirstLineEnd data else data)
      used
  | .closing _ =>
      leave
      used
  | .done =>
      leave
      again token
  | token =>
      modify fun b => { b with mode := b.afterText }
      again token

/-! ## Tables -/

def outsideTable (token : Token) : Build Left := do
  modify fun b => { b with fostering := true }
  let left ← inBody token
  modify fun b => { b with fostering := false }
  return left

def inTable (token : Token) : Build Left := do
  match token with
  | .text data =>
      let data := withoutNul data
      if tableStructure.contains (← get).topName && isSpaces data then
        addText data
        used
      else outsideTable (.text data)
  | .opening name attrs _ =>
      let b ← get
      if name = "caption" then
        clearTo ["html", "table", "template"]
        mark
        addElement name attrs
        setMode .inCaption
        used
      else if name = "colgroup" then
        clearTo ["html", "table", "template"]
        addElement name attrs
        setMode .inColumnGroup
        used
      else if name = "col" then
        clearTo ["html", "table", "template"]
        addElement "colgroup" []
        setMode .inColumnGroup
        again token
      else if rowGroups.contains name then
        clearTo ["html", "table", "template"]
        addElement name attrs
        setMode .inTableBody
        used
      else if ["td", "th", "tr"].contains name then
        clearTo ["html", "table", "template"]
        addElement "tbody" []
        setMode .inTableBody
        again token
      else if name = "table" then
        if ← popUntil .table ["table"] then
          resetMode
          again token
        else used
      else if ["style", "script", "template"].contains name then inHead token
      else if name = "input" && isHidden attrs then
        addEmpty name attrs
        used
      else if name = "form" then
        if !(b.hasOpen "template" || b.form.isSome) then
          addElement name attrs
          modify fun b => { b with form := some b.top, opened := b.opened.drop 1 }
        used
      else if name = "select" then
        reopenFormatting
        modify fun b => { b with fostering := true }
        addElement name attrs
        modify fun b => { b with fostering := false, framesetOk := false, mode := .inSelectInTable }
        used
      else outsideTable token
  | .closing name =>
      if name = "table" then
        if ← popUntil .table ["table"] then resetMode
        used
      else if tableParts.contains name || name = "body" || name = "html" then used
      else if name = "template" then inHead token
      else outsideTable token
  | .comment data =>
      addComment data
      used
  | .doctype _ => used
  | .done => inBody token

def selectInTable (attrs : List TagAttr) : Build Left := do
  reopenFormatting
  addElement "select" attrs
  noFrameset
  setMode .inSelectInTable
  used

def inCaption (token : Token) : Build Left := do
  let leave : Build Left := do
    if ← popUntil .table ["caption"] then
      clearToMark
      setMode .inTable
      again token
    else used
  match token with
  | .opening name attrs _ =>
      if tableParts.contains name && name ≠ "th" then leave
      else if name = "select" then selectInTable attrs
      else inBody token
  | .closing name =>
      if name = "caption" then
        let _ ← leave
        used
      else if name = "table" then leave
      else if tableParts.contains name || name = "body" || name = "html" then used
      else inBody token
  | token => inBody token

def inColumnGroup (token : Token) : Build Left := do
  let leave (token : Token) : Build Left := do
    if (← get).topName = "colgroup" then
      pop
      setMode .inTable
      again token
    else used
  match token with
  | .text _ =>
      match ← keepSpace token with
      | none => used
      | some token => leave token
  | .comment data =>
      addComment data
      used
  | .doctype _ => used
  | .opening name attrs _ =>
      if name = "html" then mergeHtml attrs
      else if name = "col" then
        addEmpty name attrs
        used
      else if name = "template" then inHead token
      else leave token
  | .closing name =>
      if name = "colgroup" then
        let _ ← leave token
        used
      else if name = "col" then used
      else if name = "template" then inHead token
      else leave token
  | .done => inBody token

def inTableBody (token : Token) : Build Left := do
  let leave : Build Left := do
    if ← popUntil .table rowGroups then
      setMode .inTable
      again token
    else used
  let openRow (attrs : List TagAttr) : Build Unit := do
    clearTo (["html", "template"] ++ rowGroups)
    addElement "tr" attrs
    setMode .inRow
  match token with
  | .opening name attrs _ =>
      if name = "tr" then
        openRow attrs
        used
      else if name = "td" || name = "th" then
        openRow []
        again token
      else if tableParts.contains name then leave
      else inTable token
  | .closing name =>
      if rowGroups.contains name then
        if (← get).inScope .table [name] then
          clearTo (["html", "template"] ++ rowGroups)
          pop
          setMode .inTable
        used
      else if name = "table" then leave
      else if tableParts.contains name || name = "body" || name = "html" then used
      else inTable token
  | .comment data =>
      addComment data
      used
  | token => inTable token

def inRow (token : Token) : Build Left := do
  let leave : Build Bool := do
    if ← popUntil .table ["tr"] then
      setMode .inTableBody
      return true
    else return false
  match token with
  | .opening name attrs _ =>
      if name = "td" || name = "th" then
        clearTo ["html", "tr", "template"]
        addElement name attrs
        mark
        setMode .inCell
        used
      else if tableParts.contains name then
        if ← leave then again token else used
      else inTable token
  | .closing name =>
      if name = "tr" then
        let _ ← leave
        used
      else if name = "table" then
        if ← leave then again token else used
      else if rowGroups.contains name then
        if (← get).inScope .table [name] then
          if ← leave then again token else used
        else used
      else if tableParts.contains name || name = "body" || name = "html" then used
      else inTable token
  | token => inTable token

def inCell (token : Token) : Build Left := do
  match token with
  | .opening name attrs _ =>
      if tableParts.contains name then
        if ← popUntil .table ["td", "th"] then
          clearToMark
          setMode .inRow
          again token
        else used
      else if name = "select" then selectInTable attrs
      else inBody token
  | .closing name =>
      if name = "td" || name = "th" then
        if ← popUntil .table [name] then
          clearToMark
          setMode .inRow
        used
      else if ["body", "caption", "col", "colgroup", "html"].contains name then used
      else if tableStructure.contains name then
        if (← get).inScope .table [name] then
          if ← popUntil .table ["td", "th"] then clearToMark
          setMode .inRow
          again token
        else used
      else inBody token
  | token => inBody token

/-! ## Choices -/

def closeSelect : Build Unit := do
  if ← popUntil .select ["select"] then resetMode

def ordinaryText : Build Unit :=
  modify fun b => { b with notRaw := true }

def inSelect (token : Token) : Build Left := do
  match token with
  | .text data =>
      addText (withoutNul data)
      used
  | .opening name attrs _ =>
      if name = "html" then mergeHtml attrs
      else if name = "option" || name = "optgroup" then
        if (← get).topName = "option" then pop
        if name = "optgroup" && (← get).topName = "optgroup" then pop
        addElement name attrs
        used
      else if name = "select" then
        closeSelect
        used
      else if ["input", "keygen", "textarea"].contains name then
        if (← get).inScope .select ["select"] then
          closeSelect
          again token
        else
          ordinaryText
          used
      else if name = "script" || name = "template" then inHead token
      else if ["iframe", "noembed", "noframes", "noscript", "style", "title", "xmp"].contains name then
        ordinaryText
        used
      else used
  | .closing name =>
      let b ← get
      if name = "option" then
        if b.topName = "option" then pop
        used
      else if name = "optgroup" then
        let outside := if b.topName = "option" then b.opened.drop 1 else b.opened
        if outside.head?.any fun id => b.name id = "optgroup" then
          set { b with opened := outside.drop 1 }
        used
      else if name = "select" then
        closeSelect
        used
      else if name = "template" then inHead token
      else used
  | .comment data =>
      addComment data
      used
  | .doctype _ => used
  | .done => inBody token

def inSelectInTable (token : Token) : Build Left := do
  let isPart (name : String) : Bool :=
    ["caption", "table", "tbody", "tfoot", "thead", "tr", "td", "th"].contains name
  let leave : Build Left := do
    modify fun b =>
      match b.opened.dropWhile fun id => b.name id ≠ "select" with
      | [] => b
      | _ :: opened => { b with opened }
    resetMode
    again token
  match token with
  | .opening name _ _ => if isPart name then leave else inSelect token
  | .closing name =>
      if isPart name then
        if (← get).inScope .table [name] then leave else used
      else inSelect token
  | token => inSelect token

/-! ## Templates -/

def inTemplate (token : Token) : Build Left := do
  let become (mode : Mode) : Build Left := do
    modify fun b => { b with mode, templates := mode :: b.templates.drop 1 }
    again token
  match token with
  | .opening name _ _ =>
      if headElements.contains name then inHead token
      else if rowGroups.contains name || name = "caption" || name = "colgroup" then become .inTable
      else if name = "col" then become .inColumnGroup
      else if name = "tr" then become .inTableBody
      else if name = "td" || name = "th" then become .inRow
      else become .inBody
  | .closing name => if name = "template" then inHead token else used
  | .done =>
      if (← get).hasOpen "template" then
        closeTemplate
        again token
      else used
  | token => inBody token

/-! ## After the body, and frames -/

def addSpaces (data : String) : Build Unit :=
  addText (String.ofList (data.toList.filter isSpace))

def afterBody (token : Token) : Build Left := do
  let back : Build Left := do
    setMode .inBody
    again token
  match token with
  | .done => used
  | .text data => if isSpaces data then inBody token else back
  | .opening "html" attrs _ => mergeHtml attrs
  | .closing "html" =>
      setMode .afterAfterBody
      used
  | .comment data =>
      append ((← get).opened.getLast?.getD 0) (← create (.comment data))
      used
  | _ => back

def afterAfterBody (token : Token) : Build Left := do
  let back : Build Left := do
    setMode .inBody
    again token
  match token with
  | .done => used
  | .text data => if isSpaces data then inBody token else back
  | .opening "html" attrs _ => mergeHtml attrs
  | .comment data => documentComment data
  | .doctype _ => used
  | _ => back

def inFrameset (token : Token) : Build Left := do
  match token with
  | .comment data =>
      addComment data
      used
  | .text data =>
      addSpaces data
      used
  | .opening name attrs _ =>
      if name = "html" then mergeHtml attrs
      else if name = "frameset" then
        addElement name attrs
        used
      else if name = "frame" then
        addEmpty name attrs
        used
      else if name = "noframes" then inHead token
      else used
  | .closing "frameset" =>
      if (← get).topName ≠ "html" then
        pop
        if (← get).topName ≠ "frameset" then setMode .afterFrameset
      used
  | _ => used

def afterFrameset (token : Token) : Build Left := do
  match token with
  | .comment data =>
      addComment data
      used
  | .text data =>
      addSpaces data
      used
  | .opening "html" attrs _ => mergeHtml attrs
  | .opening "noframes" _ _ => inHead token
  | .closing "html" =>
      setMode .afterAfterFrameset
      used
  | _ => used

def afterAfterFrameset (token : Token) : Build Left := do
  match token with
  | .comment data => documentComment data
  | .text data => inBody (.text (String.ofList (data.toList.filter isSpace)))
  | .opening "html" attrs _ => mergeHtml attrs
  | .opening "noframes" _ _ => inHead token
  | _ => used

/-! ## Formulas and drawings -/

def byMode (mode : Mode) (token : Token) : Build Left :=
  match mode with
  | .initial => initial token
  | .beforeHtml => beforeHtml token
  | .beforeHead => beforeHead token
  | .inHead => inHead token
  | .afterHead => afterHead token
  | .inBody => inBody token
  | .text => inText token
  | .inTable => inTable token
  | .inCaption => inCaption token
  | .inColumnGroup => inColumnGroup token
  | .inTableBody => inTableBody token
  | .inRow => inRow token
  | .inCell => inCell token
  | .inSelect => inSelect token
  | .inSelectInTable => inSelectInTable token
  | .inTemplate => inTemplate token
  | .afterBody => afterBody token
  | .inFrameset => inFrameset token
  | .afterFrameset => afterFrameset token
  | .afterAfterBody => afterAfterBody token
  | .afterAfterFrameset => afterAfterFrameset token
  | .ignoring => used

def inForeign (token : Token) : Build Left := do
  let b ← get
  match token with
  | .text data =>
      if b.framesetOk then
        set { b with framesetOk := data.toList.all fun c => isSpace c || c = '\x00' }
      addText (String.ofList (replaceNul data.toList))
      used
  | .comment data =>
      addComment data
      used
  | .opening name attrs selfClosing =>
      let styled := name = "font" && attrs.any fun a => ["color", "face", "size"].contains a.key
      if breakouts.contains name || styled then
        leaveForeign
        again token
      else
        let space := b.space b.top
        let name := if space = svgSpace then withCapitals svgNames name else name
        enter (← create (.element name space (attrs.map (·.foreign space))))
        ordinaryText
        if selfClosing then pop
        used
  | .closing name =>
      let rec go : List Nat → Build Left
        | [] => used
        | id :: around => do
            if b.space id = "" then byMode b.mode token
            else if sameFolded (b.name id) name then
              modify fun b => { b with opened := around }
              used
            else go around
      go b.opened
  | _ => used

def isForeign (b : Builder) (token : Token) : Bool :=
  match b.opened with
  | [] => false
  | id :: _ =>
      let space := b.space id
      let name := b.name id
      if space = "" then false
      else match token with
        | .done => false
        | .text _ => !(holdsText space name || holdsPage space name (b.attrs id))
        | .opening tag _ _ =>
            !((holdsText space name && tag ≠ "mglyph" && tag ≠ "malignmark") ||
              (space = mathSpace && name = "annotation-xml" && tag = "svg") ||
              holdsPage space name (b.attrs id))
        | _ => true

/-! ## Pages -/

def readToken : (fuel : Nat) → Token → Build Unit
  | 0, _ => return
  | fuel + 1, token => do
      let b ← get
      let left ← if isForeign b token then inForeign token else byMode b.mode token
      match left with
      | none => return
      | some token => readToken fuel token

def readSource : (fuel : Nat) → Source → Build Unit
  | 0, _ => return
  | fuel + 1, source => do
      let b ← get
      set { b with notRaw := false }
      let sections := b.opened.head?.any fun id => b.space id ≠ ""
      let (token, source) := source.next sections
      readToken (4 * b.opened.length + 40) token
      match token with
      | .done => return
      | _ =>
          let ordinary := (← get).notRaw
          readSource fuel (if ordinary then { source with raw := none } else source)

def finish (b : Builder) : (fuel : Nat) → (id : Nat) → List Node
  | 0, _ => []
  | fuel + 1, id =>
      let children := (b.item id).children.flatMap (finish b fuel)
      match (b.item id).shape with
      | .text data => [.node ⟨id, .text, "", "", [], data⟩ children]
      | .comment data => [.node ⟨id, .comment, "", "", [], data⟩ children]
      | .doctype name attrs => [.node ⟨id, .doctype, name, "", attrs, ""⟩ children]
      | .document => children
      | .element name space attrs =>
          [.node ⟨id, .element, name, space, attrs.map ElementAttr.attr, ""⟩ children]

def parse (text : String) : List Node :=
  let cs := text.toList
  let b := ((readSource (cs.length + 2) ⟨cs, none⟩).run {}).2
  finish b (b.items.size + 1) 0

end PageBinding.Markup
