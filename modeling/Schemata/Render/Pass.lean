import Schemata.Render.Desugar
import Schemata.Render.Respell
import Schemata.Scope

/-! Render passes, and chains of them. -/
namespace Schemata

/-- What a pass sees besides the tree. -/
structure RenderContext where
  kinds : Registry
  scope : Option Scope

/-- A named step of rendering, from whole trees to whole trees. -/
structure Pass where
  name : String
  apply : RenderContext → Tree → Except Error Tree

namespace Pass

def desugar : Pass := ⟨desugarPass, fun _ t => Schemata.desugar t⟩
def box : Pass := ⟨"multiplexer", fun c t => .ok (Schemata.box c.kinds t)⟩
def respell : Pass := ⟨"alias", fun _ t => .ok (Schemata.respell t)⟩
def strip : Pass := ⟨"filter", fun _ t => .ok (Schemata.strip t)⟩

def defaults : List Pass := [desugar, box, respell, strip]

/-- Applies passes one after the other; the first failure ends it. -/
def run (context : RenderContext) (passes : List Pass) (t : Tree) : Except Error Tree :=
  passes.foldlM (fun t pass => pass.apply context t) t

end Pass

end Schemata
