import HostReport.Page.Tag

/-!
# Open elements

Which elements are open where a tag stands. A closing tag closes everything down to the innermost
open element of its name, and nothing if there is none. Elements without contents, by their name or
because their tag closes itself, are never open.
-/

namespace HostReport.Page

open Text

/-- The elements that have no contents. -/
def voidNames : List String :=
  ["area", "base", "br", "col", "embed", "hr", "img", "input", "keygen", "link", "menuitem", "meta",
    "param", "source", "track", "wbr", "basefont", "bgsound", "command", "frame", "image",
    "isindex", "nextid", "spacer"]

/-- An element: its name and attributes. -/
structure Element where
  name : String
  attributes : List (String × String)
  deriving DecidableEq, Repr

namespace Element

/-- The value of an attribute; of several with one name the last counts. -/
def attribute? (e : Element) (name : String) : Option String := e.attributes.reverse.lookup name

/-- The classes of an element. -/
def classes (e : Element) : List String := wordsOf ((e.attribute? "class").getD "")

end Element

/-- The open elements, innermost first. -/
abbrev Outline := List Element

namespace Outline

/-- Closes the innermost open element with this name and all within it. -/
def close (o : Outline) (name : String) : Outline :=
  if o.any (·.name = name) then (o.dropWhile (·.name ≠ name)).drop 1 else o

/-- The open elements after a tag. -/
def step (o : Outline) : Tag → Outline
  | .closing name => o.close name
  | .opening name attributes isSelfClosing =>
    if isSelfClosing || voidNames.contains name then o else ⟨name, attributes⟩ :: o

/-- The elements of the tags, each with the elements that are open around it. -/
def elementsFrom (o : Outline) : List Tag → List (Element × Outline)
  | [] => []
  | t :: ts =>
    match t with
    | .opening name attributes _ => (⟨name, attributes⟩, o) :: elementsFrom (o.step t) ts
    | .closing _ => elementsFrom (o.step t) ts

end Outline

/-- The elements of a page in order, each with the elements that are open around it. -/
def elements (page : String) : Except Fault (List (Element × Outline)) := do
  return Outline.elementsFrom [] (← tags page.toList)

end HostReport.Page
