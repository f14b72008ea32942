import Pageworks.Text.Blank
import Pageworks.Text.Category
import Pageworks.Text.Pattern

/-!
# Markup in markdown

Markup may stand in a markdown text as it is.  Inline it is a single tag; as a block it runs from
a line that starts it to a line that ends it.

## Main definitions

* `Html.escape`: a text in which nothing is markup.
* `Html.tag`: the tags, comments and the like that may stand inline.
* `HtmlBlock`, `HtmlBlock.of?`: the kinds of blocks and the kind that a line starts.
* `HtmlBlock.endsAt`, `HtmlBlock.interrupts`: where a block ends, and whether it ends a paragraph.
-/

namespace Pageworks.Markdown

open Pageworks.Text

namespace Html

/-- One character as text. -/
def escapeChar (c : Char) : List Char :=
  if c == '&' then "&amp;".toList
  else if c == '<' then "&lt;".toList
  else if c == '>' then "&gt;".toList
  else if c == '"' then "&quot;".toList
  else [c]

/-- A text in which nothing is markup. -/
def escape (s : List Char) : List Char := s.flatMap escapeChar

open Pattern

/-- Any white space. -/
def blanks : Pattern := star (one isBlank)

/-- A word in any case. -/
def anyCase (word : String) : Pattern :=
  Pattern.all (word.toList.map fun c => one fun d => letterIgnoringCase d == c)

/-- One of some words in any case. -/
def anyWord (words : List String) : Pattern := Pattern.any (words.map anyCase)

/-- Any character but the given one. -/
def other (c : Char) : Pattern := one (· != c)

/-- The name of an attribute. -/
def attributeName : Pattern :=
  seq (one fun c => isAsciiLetter c || c == '_' || c == ':')
    (star (one fun c => isAsciiAlnum c || c == ':' || c == '.' || c == '_' || c == '-'))

/-- A value between two quotes. -/
def quotedBy (q : Char) : Pattern := Pattern.all [char q, star (other q), char q]

/-- A value without quotes. -/
def bareValue : Pattern :=
  plus (one fun c => 32 < c.toNat && !("\"=<>\x60".toList.contains c) && c != Char.ofNat 39)

/-- An attribute with the blanks before it. -/
def htmlAttribute : Pattern :=
  Pattern.all [plus (one isBlank), attributeName,
    opt (Pattern.all [blanks, char '=', blanks,
      Pattern.any [bareValue, quotedBy (Char.ofNat 39), quotedBy '"']])]

/-- The name of a tag. -/
def tagName : Pattern :=
  seq (one isAsciiLetter) (star (one fun c => isAsciiAlnum c || c == '-'))

/-- A tag that opens an element. -/
def openTag : Pattern :=
  Pattern.all [char '<', tagName, star htmlAttribute, blanks, opt (char '/'), char '>']

/-- A tag that closes an element. -/
def closeTag : Pattern := Pattern.all [word "</", tagName, blanks, char '>']

/-- A comment. -/
def comment : Pattern :=
  Pattern.any [
    Pattern.all [word "<!--", opt (char '-'), char '>'],
    Pattern.all [word "<!--",
      star (Pattern.any [other '-', seq (char '-') (other '-'), seq (word "--") (other '>')]),
      word "-->"]]

/-- The shortest text up to the given end, the end included. -/
def upTo (ending : String) : Pattern :=
  seq (star (seq (barring (word ending)) (one fun _ => true))) (word ending)

/-- A processing instruction. -/
def instruction : Pattern := seq (word "<?") (upTo "?>")

/-- A declaration. -/
def declaration : Pattern :=
  Pattern.all [word "<!", one isAsciiLetter, star (other '>'), char '>']

/-- A section of character data. -/
def characterData : Pattern := seq (word "<![CDATA[") (upTo "]]>")

/-- What may stand inline as it is. -/
def tag : Pattern :=
  Pattern.any [openTag, closeTag, comment, instruction, declaration, characterData]

/-- Elements whose content is no markdown. -/
def rawElements : List String := ["script", "pre", "style", "textarea"]

/-- Elements that are blocks. -/
def blockElements : List String := [
  "address", "article", "aside", "base", "basefont", "blockquote", "body", "caption", "center",
  "col", "colgroup", "dd", "details", "dialog", "dir", "div", "dl", "dt", "fieldset", "figcaption",
  "figure", "footer", "form", "frame", "frameset", "h1", "h2", "h3", "h4", "h5", "h6", "head",
  "header", "hr", "html", "iframe", "legend", "li", "link", "main", "menu", "menuitem", "nav",
  "noframes", "ol", "optgroup", "option", "p", "param", "search", "section", "summary", "table",
  "tbody", "td", "tfoot", "th", "thead", "title", "tr", "track", "ul"]

/-- What follows the name of an element: a blank, the end of the tag or of the line. -/
def afterName (ending : Pattern) : Pattern := Pattern.any [one isBlank, ending, atEnd]

end Html

/-- The kinds of blocks of markup. -/
inductive HtmlBlock
  /-- An element whose content is no markdown. -/
  | raw
  /-- A comment. -/
  | comment
  /-- A processing instruction. -/
  | instruction
  /-- A declaration. -/
  | declaration
  /-- A section of character data. -/
  | characterData
  /-- An element that is a block. -/
  | element
  /-- Any other tag on a line of its own. -/
  | tag
  deriving DecidableEq, Repr

namespace HtmlBlock

open Html Pattern

/-- All kinds, those first that are tried first. -/
def kinds : List HtmlBlock :=
  [.raw, .comment, .instruction, .declaration, .characterData, .element, .tag]

/-- What a line starts with that starts a block. -/
def start : HtmlBlock → Pattern
  | .raw => Pattern.all [char '<', anyWord rawElements, afterName (char '>')]
  | .comment => word "<!--"
  | .instruction => word "<?"
  | .declaration => seq (word "<!") (one fun c => 'A' ≤ c && c ≤ 'Z')
  | .characterData => word "<![CDATA["
  | .element =>
    Pattern.all [char '<', opt (char '/'), anyWord blockElements,
      afterName (seq (opt (char '/')) (char '>'))]
  | .tag => Pattern.all [Pattern.any [openTag, closeTag], blanks, atEnd]

/-- The kind of block that a line starts. -/
def of? (line : List Char) : Option HtmlBlock :=
  kinds.find? fun k => (k.start.after? line).isSome

/-- The line ends a block of the kind. -/
def endsAt : HtmlBlock → List Char → Bool
  | .raw, line => (Pattern.all [word "</", anyWord rawElements, char '>']).occurs line
  | .comment, line => (word "-->").occurs line
  | .instruction, line => (word "?>").occurs line
  | .declaration, line => line.contains '>'
  | .characterData, line => (word "]]>").occurs line
  | .element, line | .tag, line => line.isEmpty

/-- The block may follow the lines of a paragraph. -/
def interrupts : HtmlBlock → Bool
  | .tag => false
  | _ => true

end HtmlBlock

end Pageworks.Markdown
