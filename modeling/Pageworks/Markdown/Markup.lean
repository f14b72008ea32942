import Pageworks.Markdown.Block.Reader
import Pageworks.Markdown.Inline.Reader

/-!
# Markup of a document

The blocks and the inline content of a markdown document as tags and text.

## Main definitions

* `Inline.markup`, `Inline.markupAll`: inline content.
* `Writer`: what the markup of blocks depends on.
* `Writer.block`, `Writer.blocks`, `Writer.items`: blocks.
* `render`: the markup of a markdown text.
-/

namespace Pageworks.Markdown

open Pageworks.Text

/-- An attribute of a tag. -/
def tagAttribute (name : String) (value : List Char) : List Char :=
  ' ' :: name.toList ++ "=\"".toList ++ Html.escape value ++ ['"']

/-- The attribute for a title, if there is one. -/
def titleAttribute (title : List Char) : List Char :=
  if title.isEmpty then [] else tagAttribute "title" title

/-- A tag that opens an element. -/
def openTag (element : String) (written : List Char) : List Char :=
  '<' :: element.toList ++ written ++ ['>']

/-- A tag that closes an element. -/
def closeTag (element : String) : List Char := '<' :: '/' :: element.toList ++ ['>']

/-- The tag of an element without content. -/
def voidTag (preset : Preset) (element : String) (written : List Char) : List Char :=
  '<' :: element.toList ++ written ++ (if preset.closesVoid then " />".toList else ['>'])

mutual

/-- The markup of a piece of inline content. -/
def Inline.markup (preset : Preset) : Inline → List Char
  | .text s | .escaped s => Html.escape s
  | .code s => openTag "code" [] ++ Html.escape s ++ closeTag "code"
  | .softBreak => ['\n']
  | .hardBreak => voidTag preset "br" [] ++ ['\n']
  | .html s => s
  | .opening e => openTag e.element []
  | .closing e => closeTag e.element
  | .link url title content =>
    openTag "a" (tagAttribute "href" url ++ titleAttribute title) ++
      Inline.markupAll preset content ++ closeTag "a"
  | .image url title description =>
    voidTag preset "img" (tagAttribute "src" url ++
      tagAttribute "alt" (Inline.plainAll description) ++ titleAttribute title)

/-- The markup of inline content. -/
def Inline.markupAll (preset : Preset) : List Inline → List Char
  | [] => []
  | x :: xs => x.markup preset ++ Inline.markupAll preset xs

end

/-- What the markup of blocks depends on. -/
structure Writer where
  /-- How void elements are written, and what is inline markup. -/
  preset : Preset
  /-- The definitions of the document. -/
  definitions : List Definition

namespace Writer

/-- The markup of a text with inline markup in it. -/
def inline (w : Writer) (text : List Char) : List Char :=
  Inline.markupAll w.preset (inlines w.preset w.definitions text)

/-- An element with its content on one line. -/
def element (name : String) (written content : List Char) : List Char :=
  openTag name written ++ content ++ closeTag name ++ ['\n']

/-- The name of the language of fenced code, from the text after the fence. -/
def languageOf (info : List Char) : List Char :=
  (trim (unescape info)).takeWhile fun c => !isBlank c

/-- The markup of code in a language, if it has one. -/
def codeBlock (language text : List Char) : List Char :=
  let written :=
    if language.isEmpty then [] else tagAttribute "class" ("language-".toList ++ language)
  "<pre>".toList ++ openTag "code" written ++ Html.escape text ++ "</code></pre>\n".toList

/-- A cell of a table. -/
def cell (w : Writer) (name : String) (column : Option Alignment) (text : List Char) : List Char :=
  let written := column.elim [] fun a => tagAttribute "style" ("text-align:" ++ a.name).toList
  element name written (w.inline text)

/-- A row of a table. -/
def row (w : Writer) (name : String) (columns : List (Option Alignment))
    (texts : List (List Char)) : List Char :=
  "<tr>\n".toList ++ (columns.zip texts).flatMap (fun (c, t) => w.cell name c t) ++
    "</tr>\n".toList

/-- The markup of a table. -/
def table (w : Writer) (columns : List (Option Alignment)) (heads : List (List Char))
    (rows : List (List (List Char))) : List Char :=
  let body := rows.flatMap (w.row "td" columns)
  "<table>\n<thead>\n".toList ++ w.row "th" columns heads ++ "</thead>\n".toList ++
    (if rows.isEmpty then [] else "<tbody>\n".toList ++ body ++ "</tbody>\n".toList) ++
    "</table>\n".toList

/-- The attribute of a list that does not start at one. -/
def startAttribute : Option Nat → List Char
  | some 1 | none => []
  | some n => tagAttribute "start" (toString n).toList

/-- The block is a paragraph. -/
def isParagraph : Block → Bool
  | .paragraph _ => true
  | _ => false

/-- The block starts with a tag of its own line; code and markup take what is there. -/
def startsLine : Block → Bool
  | .paragraph _ | .code _ | .fenced _ _ | .html _ => false
  | _ => true

/-- The line end after the tag that opens a container. -/
def afterOpening (tight : Bool) : List Block → List Char
  | [] => []
  | b :: _ => if tight && isParagraph b then [] else ['\n']

mutual

/-- The markup of a block.  A paragraph in a tight list has no tags. -/
def block (w : Writer) (tight : Bool) : Block → List Char
  | .paragraph text => if tight then w.inline text else element "p" [] (w.inline text)
  | .heading level text => element ("h" ++ toString level) [] (w.inline text)
  | .rule => voidTag w.preset "hr" [] ++ ['\n']
  | .code text => codeBlock [] text
  | .fenced info text => codeBlock (languageOf info) text
  | .html text => text
  | .quote inner =>
    "<blockquote>".toList ++ afterOpening false inner ++ w.blocks false false inner ++
      "</blockquote>\n".toList
  | .list first tight inner =>
    let name := if first.isSome then "ol" else "ul"
    openTag name (startAttribute first) ++ ['\n'] ++ w.items tight inner ++ closeTag name ++ ['\n']
  | .table columns heads rows => w.table columns heads rows

/-- The markup of blocks, after a paragraph without tags if `bare` says so. -/
def blocks (w : Writer) (tight bare : Bool) : List Block → List Char
  | [] => []
  | b :: bs =>
    (if bare && startsLine b then ['\n'] else []) ++ w.block tight b ++
      w.blocks tight (tight && isParagraph b) bs

/-- The markup of the items of a list. -/
def items (w : Writer) (tight : Bool) : List (List Block) → List Char
  | [] => []
  | item :: rest =>
    "<li>".toList ++ afterOpening tight item ++ w.blocks tight false item ++ "</li>\n".toList ++
      w.items tight rest

end

end Writer

/-- The markup of a markdown text. -/
def render (preset : Preset) (text : String) : String :=
  let (blocks, definitions) := blocksOf preset text.toList
  String.ofList (Writer.blocks ⟨preset, definitions⟩ false false blocks)

end Pageworks.Markdown
