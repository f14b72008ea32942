/-!
# Dialects of markdown

A preset says which constructs are markdown and how void elements are written.

## Main definitions

* `Preset`: the choices.
* `Preset.ofName?`: the presets by name.
-/

namespace Pageworks.Markdown

/-- Which constructs are markdown. -/
structure Preset where
  /-- Everything but paragraphs of plain text; without it the other choices do not matter. -/
  markup : Bool := true
  /-- Tables. -/
  tables : Bool
  /-- Text struck through between pairs of tildes. -/
  strikes : Bool
  /-- Markup that stands as it is. -/
  html : Bool
  /-- Void elements are closed with a slash. -/
  closesVoid : Bool
  /-- How deep blocks, and likewise links, may nest. -/
  maxDepth : Nat
  deriving DecidableEq, Repr

namespace Preset

/-- The common ground of all dialects. -/
def commonmark : Preset := {
  tables := false, strikes := false, html := true, closesVoid := true, maxDepth := 20 }

/-- The common ground with tables and strikes. -/
def gfmLike : Preset := { commonmark with tables := true, strikes := true }

/-- All constructs except markup that stands as it is. -/
def complete : Preset := {
  tables := true, strikes := true, html := false, closesVoid := false, maxDepth := 100 }

/-- Paragraphs of plain text. -/
def zero : Preset := {
  markup := false, tables := false, strikes := false, html := false, closesVoid := false
  maxDepth := 20 }

/-- The preset that is used unless another is asked for. -/
def standardName : String := "gfm-like"

/-- The presets by name. -/
def ofName? : String → Option Preset
  | "commonmark" => some commonmark
  | "gfm-like" => some gfmLike
  | "default" | "js-default" => some complete
  | "zero" => some zero
  | _ => none

end Preset

end Pageworks.Markdown
