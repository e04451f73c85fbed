import CheckPlan.Catalog.Basic
import CheckPlan.Text.Line
import CheckPlan.Problem

namespace CheckPlan

/-- A header line and the lines below it, up to the next header. -/
structure Block where
  header : Line
  body : List Line
  deriving DecidableEq, Repr

/-- Whether the line opens a block. -/
def Line.isHeader (line : Line) : Bool :=
  line.raw.head? = some '$'

namespace Block

/-- The lines before the first header, and the blocks. -/
def group : List Line → List Line × List Block
  | [] => ([], [])
  | line :: rest =>
    let (above, blocks) := group rest
    if line.isHeader then ([], ⟨line, above⟩ :: blocks) else (line :: above, blocks)

/-- The name that the header gives, which is the rest of its line without the
    blanks at the end. -/
def name (block : Block) : Text :=
  Text.trimEnd block.header.raw.tail

/-- The template that the block describes. Its body is the block's lines as
    they stand, line feeds included. -/
def template (block : Block) : Template :=
  ⟨block.name, block.body.flatMap Line.raw, block.header.number⟩

/-- A problem with the header of the block. -/
def problem (block : Block) (cause : Cause) : Problem :=
  ⟨cause, block.header.number, block.header.span⟩

/-- The catalog with the block's template, or the problem with its header. -/
def register (block : Block) (catalog : Catalog) : Except Problem Catalog :=
  if block.name = [] then
    .error (block.problem .unnamedTemplate)
  else
    match catalog.register block.template with
    | .ok grown => .ok grown
    | .error rejected => .error (block.problem (.duplicateTemplate rejected.name))

end Block

namespace Catalog

/-- The blocks of a source, in order. -/
def blocks (source : Text) : List Block :=
  (Block.group source.lines).2

/-- The catalog with the templates of the blocks that can be used, and each
    block with the problem that keeps it out, if there is one. -/
def registerAll (catalog : Catalog) : List Block → Catalog × List (Block × Option Problem)
  | [] => (catalog, [])
  | block :: rest =>
    match block.register catalog with
    | .ok grown =>
      let (final, outcomes) := registerAll grown rest
      (final, (block, none) :: outcomes)
    | .error problem =>
      let (final, outcomes) := registerAll catalog rest
      (final, (block, some problem) :: outcomes)

/-- The catalog of a source, or every problem with its headers. -/
def parse (source : Text) : Except (List Problem) Catalog :=
  let (catalog, outcomes) := registerAll empty (blocks source)
  match outcomes.filterMap Prod.snd with
  | [] => .ok catalog
  | problems => .error problems

end Catalog

end CheckPlan
