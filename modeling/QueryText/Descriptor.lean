import QueryText.Path

namespace QueryText

structure Descriptor where
  root : Path
  fields : List Path
  deriving DecidableEq

namespace Descriptor

def withAlias (e : Entity) (name : String) : Descriptor :=
  ⟨Path.source e name, []⟩

/-- The descriptor rooted at the entity's conventional variable. -/
def ofEntity (e : Entity) : Descriptor :=
  withAlias e e.defaultAlias

def get? (d : Descriptor) (name : String) : Option Path :=
  d.fields.find? (·.name == name)

/-- Declares a field; of two declarations of one name the first stays. -/
def field (d : Descriptor) (name : String) (kind : Kind) : Descriptor :=
  if (d.get? name).isSome then d
  else { d with fields := d.fields ++ [d.root.property name kind] }

/-- The same fields under another variable, for joins of an entity with itself. -/
def aliased (d : Descriptor) (name : String) : Descriptor :=
  let root := d.root.withName name
  ⟨root, d.fields.map (·.withParent root)⟩

end Descriptor

end QueryText
