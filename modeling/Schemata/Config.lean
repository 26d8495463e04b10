import Schemata.Render.Pass

/-! Configurations, and the sessions in which nodes are built and rendered. -/
namespace Schemata

/-- The kinds that can be built and the passes that render them. -/
structure Config where
  kinds : Registry := .builtin
  passes : List Pass := Pass.defaults

namespace Config

def register (c : Config) (k : Kind) : Config := { c with kinds := c.kinds.register k }

def setDefaults (c : Config) (id : String) (entries : List (String × AttrValue)) :
    Except Error Config :=
  (c.kinds.setDefaults id entries).map fun kinds => { c with kinds }

def resetDefaults (c : Config) : Config := { c with kinds := c.kinds.resetDefaults }

def resetKinds (c : Config) : Config := { c with kinds := .builtin }

def resetPasses (c : Config) : Config := { c with passes := Pass.defaults }

end Config

/-- Where schemas are built and rendered: a configuration, and a scope around it if there is one. -/
structure Session where
  config : Config := {}
  scope : Option Scope := none

/-- Renders the plain tree of a node. -/
def Session.renderNode (s : Session) (n : Node) : Except Error Tree :=
  Pass.run ⟨s.config.kinds, s.scope⟩ s.config.passes n.toTree

end Schemata
