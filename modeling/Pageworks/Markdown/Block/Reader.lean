import Pageworks.Markdown.Block.Page

/-!
# Reading blocks

Blocks are read one after another from the lines of a container.  The containers in it are read by
the same rules one level deeper, and lists two; at the deepest level nothing is read.

## Main definitions

* `Reading`, `Reader`: blocks read from some lines, and what reads them.
* `Page.quoteAt?`, `Page.listAt?`: the containers, given what reads their content.
* `Page.blockAt`: the block at a line.
* `readBlocks`: blocks one after another.
* `reader`: the blocks of a container at a depth.
* `Document.ofText`: the blocks of a text.
-/

namespace Pageworks.Markdown

open Pageworks.Text

/-- What comes of reading some lines. -/
structure Reading where
  /-- The blocks. -/
  blocks : List Block
  /-- The definitions among them. -/
  definitions : List Definition
  /-- The first line that was not read. -/
  next : Nat
  /-- No empty line stands before the last block. -/
  tight : Bool

/-- Reads the lines of a container from one number to another. -/
abbrev Reader := Page → (start stop : Nat) → Reading

namespace Page

/-- The lines of a quotation from line `i` on, the line after them, and whether another block ends
the quotation.  A line without the mark may go on with a paragraph unless `bare` says that the line
before it is empty. -/
def quoteLines (p : Page) (stop : Nat) (bare : Bool) (i : Nat) (lines : Array Line) :
    Array Line × Nat × Bool :=
  if i < stop then
    let l := p.line i
    if l.isEmpty then (lines, i, false)
    else
      match if p.isOutdented i then none else l.insideQuote? with
      | some inner => p.quoteLines stop inner.isEmpty (i + 1) (lines.setIfInBounds i inner)
      | none =>
        if bare then (lines, i, false)
        else if p.interrupts stop .quote i then
          (lines.setIfInBounds i (l.shiftedBy p.margin), i, true)
        else p.quoteLines stop bare (i + 1) (lines.setIfInBounds i l.lazily)
  else (lines, i, false)
termination_by stop - i

/-- The quotation at a line. -/
def quoteAt? (read : Reader) (p : Page) (stop i : Nat) : Option Reading :=
  let starts := !p.isIndented i && (p.line i).content.head? == some '>'
  match if starts then (p.line i).insideQuote? else none with
  | none => none
  | some first =>
    let (lines, next, ended) :=
      p.quoteLines stop first.isEmpty (i + 1) (p.lines.setIfInBounds i first)
    let inner := { p with lines := lines, limit := if ended then next else p.limit, margin := 0 }
    let r := read inner i next
    some { r with blocks := [.quote r.blocks] }

/-- The items of a list and what comes with them. -/
structure Items where
  /-- The items. -/
  items : List (List Block)
  /-- The definitions among them. -/
  definitions : List Definition
  /-- The first line after the list. -/
  next : Nat
  /-- No empty line stands between blocks or items. -/
  tight : Bool

/-- The content of the item at a line, and the line after it. -/
def readItem (read : Reader) (p : Page) (stop i : Nat) (mark : ListMark) : Reading :=
  let (first, margin) := (p.line i).insideItem mark.width
  let inner := { p with
    lines := p.lines.setIfInBounds i first, margin := margin, listMargin := some p.margin }
  if first.isEmpty && (p.line (i + 1)).isEmpty then ⟨[], [], min (i + 2) stop, true⟩
  else read inner i stop

/-- The mark of the item at a line, if the item belongs to the list of another mark. -/
def nextMark? (p : Page) (stop i : Nat) (mark : ListMark) : Option ListMark :=
  if i < stop && !p.isOutdented i && !p.isIndented i && !p.interrupts stop .list i then
    (listMark? (p.line i).content).filter mark.continues
  else none

/-- The items of a list from the one at line `i` on, after an item that ends in an empty line if
`spaced` says so.  The fuel is the number of lines. -/
def readItems (read : Reader) (p : Page) (stop : Nat) : Nat → Nat → ListMark → Bool → Items
  | 0, i, _, _ => ⟨[], [], i, true⟩
  | fuel + 1, i, mark, spaced =>
    let r := readItem read p stop i mark
    let tight := r.tight && !spaced
    match p.nextMark? stop r.next mark with
    | none => ⟨[r.blocks], r.definitions, r.next, tight⟩
    | some nextMark =>
      let endsEmpty := i + 1 < r.next && (p.line (r.next - 1)).isEmpty
      let rest := readItems read p stop fuel r.next nextMark endsEmpty
      ⟨r.blocks :: rest.items, r.definitions ++ rest.definitions, rest.next, tight && rest.tight⟩

/-- The list at a line. -/
def listAt? (read : Reader) (p : Page) (stop i : Nat) : Option Reading :=
  match if p.isIndented i then none else p.itemAt? i with
  | none => none
  | some mark =>
    let r := readItems read p stop (stop - i) i mark false
    some ⟨[.list mark.number r.tight r.items], r.definitions, r.next, true⟩

/-- How many cells may be added to short rows of one table. -/
def maxAddedCells : Int := 0x10000

/-- The rows of a table from line `i` on, and the line after them. -/
def tableRows (p : Page) (stop width : Nat) (added : Int) (i : Nat) :
    List (List (List Char)) × Nat :=
  if i < stop then
    let l := p.line i
    if p.isOutdented i || p.interrupts stop .table i || (trim l.content).isEmpty ||
        p.isIndented i then ([], i)
    else
      let row := cells l.content
      let added := added + (width : Int) - row.length
      if maxAddedCells < added then ([], i)
      else
        let (rows, next) := p.tableRows stop width added (i + 1)
        ((row ++ List.replicate (width - row.length) []).take width :: rows, next)
  else ([], i)
termination_by stop - i

/-- The table at a line. -/
def tableAt? (p : Page) (stop i : Nat) : Option (Block × Nat) :=
  (p.tableHead? stop i).map fun (columns, heads) =>
    let (rows, next) := p.tableRows stop columns.length 0 (i + 2)
    (.table columns heads rows, next)

/-- The indented code at a line. -/
def codeAt? (p : Page) (stop i : Nat) : Option (Block × Nat) :=
  if p.isIndented i then
    let next := p.codeEnd stop (i + 1) (i + 1)
    some (.code (['\n'].intercalate (p.textBetween i next (p.margin + 4)) ++ ['\n']), next)
  else none

/-- The fenced code at a line. -/
def fencedAt? (p : Page) (stop i : Nat) : Option (Block × Nat) :=
  if p.isIndented i then none
  else (fence? (p.line i).content).map fun f =>
    let (last, next) := p.fenceEnd stop f (i + 1)
    (.fenced f.info (p.linesBetween (i + 1) last (p.line i).column.toNat), next)

/-- The thematic break at a line. -/
def ruleAt? (p : Page) (i : Nat) : Option (Block × Nat) :=
  if !p.isIndented i && isRule (p.line i).content then some (.rule, i + 1) else none

/-- The markup at a line. -/
def htmlBlockAt? (p : Page) (stop i : Nat) : Option (Block × Nat) :=
  if p.isIndented i then none
  else (p.htmlAt? i).map fun kind =>
    let next :=
      if kind.endsAt (p.line i).content then i + 1 else p.htmlEnd stop kind (i + 1)
    (.html (p.linesBetween i next p.margin), next)

/-- The heading at a line, on one line or above an underline. -/
def headingAt? (p : Page) (stop i : Nat) : Option (Block × Nat) :=
  if p.isIndented i then none
  else
    match heading? (p.line i).content with
    | some (level, text) => some (.heading level text, i + 1)
    | none => (p.underlined? stop (i + 1)).map fun (level, last) =>
      let text := ['\n'].intercalate (p.textBetween i last p.margin)
      (.heading level (trim text), last + 1)

/-- The paragraph at a line. -/
def paragraphAt (p : Page) (i : Nat) : Block × Nat :=
  let next := p.paragraphEnd (i + 1)
  (.paragraph (trim (['\n'].intercalate (p.textBetween i next p.margin))), next)

/-- A single block with the line after it. -/
def single (b : Block × Nat) : Reading := ⟨[b.1], [], b.2, true⟩

/-- A definition with the line after it. -/
def defining (d : Definition × Nat) : Reading := ⟨[], [d.1], d.2, true⟩

/-- The block at a line, given what reads the content of quotations and of lists. -/
def blockAt (readQuote readList : Reader) (p : Page) (stop i : Nat) : Reading :=
  if p.preset.markup then
    (((p.tableAt? stop i).map single) <|> ((p.codeAt? stop i).map single) <|>
      ((p.fencedAt? stop i).map single) <|> (p.quoteAt? readQuote stop i) <|>
      ((p.ruleAt? i).map single) <|> (p.listAt? readList stop i) <|>
      ((p.definitionAt? i).map defining) <|> ((p.htmlBlockAt? stop i).map single) <|>
      ((p.headingAt? stop i).map single)).getD (single (p.paragraphAt i))
  else single (p.paragraphAt i)

end Page

/-- The blocks from line `i` on, after an empty line if `spaced` says so.  The fuel is the number
of lines. -/
def readBlocks (readQuote readList : Reader) (p : Page) (stop : Nat) :
    Nat → Nat → Bool → Bool → Reading
  | 0, i, _, tight => ⟨[], [], i, tight⟩
  | fuel + 1, i, spaced, tight =>
    let start := p.skipEmpty i
    if stop ≤ i then ⟨[], [], i, tight⟩
    else if stop ≤ start || p.isOutdented start then ⟨[], [], start, tight⟩
    else
      let r := p.blockAt readQuote readList stop start
      let endsEmpty := r.next ≤ stop && (p.line (r.next - 1)).isEmpty
      let nextEmpty := r.next < stop && (p.line r.next).isEmpty
      let rest := readBlocks readQuote readList p stop fuel (if nextEmpty then r.next + 1 else r.next)
        (spaced || endsEmpty || nextEmpty) (!spaced)
      { rest with blocks := r.blocks ++ rest.blocks, definitions := r.definitions ++ rest.definitions }

/-- At the deepest level the content of a container is passed over. -/
def passOver : Reader := fun p start stop =>
  let i := p.skipEmpty start
  if stop ≤ start then ⟨[], [], start, true⟩
  else if stop ≤ i || p.isOutdented i then ⟨[], [], i, true⟩
  else ⟨[], [], stop, true⟩

/-- Reads the content of a container that so many levels may be below. -/
def reader : Nat → Reader
  | 0 => passOver
  | 1 => fun p start stop => readBlocks passOver passOver p stop (stop - start) start false true
  | depth + 2 => fun p start stop =>
    readBlocks (reader (depth + 1)) (reader depth) p stop (stop - start) start false true

/-- The blocks of a text and the definitions among them. -/
def blocksOf (preset : Preset) (text : List Char) : List Block × List Definition :=
  let lines := (linesOf (tidied text)).toArray
  let page : Page := ⟨preset, lines, lines.size, 0, none⟩
  let r := reader preset.maxDepth page 0 lines.size
  (r.blocks, r.definitions)

end Pageworks.Markdown
