import Pageworks.Markdown.Markup

/-!
# Renderers

A renderer turns the body of a document into markup.  The markdown renderers are named by the
dialect that they read.

## Main definitions

* `Renderer`: what turns a text into markup, or fails.
* `Renderer.ofPreset?`: the markdown renderer of a dialect.
-/

namespace Pageworks

/-- Why a renderer gives no markup. -/
structure RenderFailure where
  /-- What the renderer says. -/
  message : String
  deriving DecidableEq, Repr

/-- Turns the body of a document into markup. -/
abbrev Renderer := String → Except RenderFailure String

namespace Renderer

/-- The renderer of a dialect of markdown. -/
def markdown (preset : Markdown.Preset) : Renderer := fun text => .ok (Markdown.render preset text)

/-- The markdown renderer of the dialect of a name. -/
def ofPreset? (name : String) : Option Renderer := (Markdown.Preset.ofName? name).map markdown

/-- The renderer that is used unless another is asked for. -/
def standard : Renderer := markdown Markdown.Preset.gfmLike

end Renderer

end Pageworks
