/-!
# Markup

A page is a tree of elements and texts, and `Node.html` is the one place where it becomes text.  Texts
and attribute values are escaped there, and an element without content, such as a line of a form, is
written without a closing tag.  An empty text is written as a space, so that the browser finds a text
where the tree has one.
-/

namespace DnsConsole.Page

/-- An attribute of an element, with a value or without one. -/
inductive Attribute
  | value (name text : String)
  | bare (name : String)
  deriving DecidableEq, Repr

/-- A part of a page.  `raw` is text that is not escaped, as the inside of a script is, `comment` and
`marker` are seen by scripts only, and `void` is an element that has no content. -/
inductive Node
  | text (s : String)
  | raw (s : String)
  | comment (s : String)
  | marker
  | element (name : String) (attributes : List Attribute) (children : List Node)
  | void (name : String) (attributes : List Attribute)
  deriving Repr

/-- How a character of a text is written. -/
def escapeChar : Char → List Char
  | '&' => "&amp;".toList
  | '<' => "&lt;".toList
  | '>' => "&gt;".toList
  | c => [c]

/-- How a character of an attribute value is written. -/
def escapeValueChar : Char → List Char
  | '"' => "&quot;".toList
  | c => escapeChar c

/-- A text as it is written between tags. -/
def escapeText (s : String) : String :=
  String.ofList (s.toList.flatMap escapeChar)

/-- A text as it is written in an attribute. -/
def escapeValue (s : String) : String :=
  String.ofList (s.toList.flatMap escapeValueChar)

/-- An attribute as it is written, with the space in front. -/
def Attribute.html : Attribute → String
  | value name text => " " ++ name ++ "=\"" ++ escapeValue text ++ "\""
  | bare name => " " ++ name

/-- An opening tag. -/
def openingTag (name : String) (attributes : List Attribute) : String :=
  "<" ++ name ++ String.join (attributes.map Attribute.html) ++ ">"

mutual

/-- A part of a page as text. -/
def Node.html : Node → String
  | .text s => if s.isEmpty then " " else escapeText s
  | .raw s => s
  | .comment s => "<!--" ++ s ++ "-->"
  | .marker => "<!>"
  | .element name attributes children =>
    openingTag name attributes ++ htmlOf children ++ "</" ++ name ++ ">"
  | .void name attributes => openingTag name attributes

/-- Some parts of a page as text. -/
def htmlOf : List Node → String
  | [] => ""
  | node :: nodes => node.html ++ htmlOf nodes

end

/-- An element of a class. -/
def classed (name style : String) (children : List Node) : Node :=
  .element name [.value "class" style] children

end DnsConsole.Page
