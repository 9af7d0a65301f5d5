import Placement.Text.Basic

/-!
# Placement.Location.Basic — where an operator runs

A location is a kind, a label and the number of Tick layers around it. It has
two texts: the canonical one, which names a lifetime and parses back, and the
display form without it. A location whose label is the name of its kind has no
parameter, and neither text shows one.
-/

namespace Placement

/-- The kinds of locations. -/
inductive Kind where
  | process
  | cluster
  | external
deriving DecidableEq, Repr

namespace Kind

/-- The name of a kind. -/
def name : Kind → Text
  | .process => "Process".text
  | .cluster => "Cluster".text
  | .external => "External".text

/-- All kinds. -/
def all : List Kind := [.process, .cluster, .external]

/-- The kind with a name. -/
def ofName? (t : Text) : Option Kind := all.find? fun k => k.name == t

/-- The kind whose name a text begins with, and what follows. -/
def lead? (t : Text) : Option (Kind × Text) :=
  all.findSome? fun k => (Text.after? k.name t).map fun rest => (k, rest)

end Kind

/-- Where an operator runs. -/
structure Location where
  kind : Kind
  label : Text
  tickDepth : Nat
deriving DecidableEq, Repr

namespace Location

/-- The beginning of a Tick layer. -/
def tickLead : Text := "Tick<".text

/-- A text inside a number of Tick layers. -/
def wrapTicks (inner : Text) : Nat → Text
  | 0 => inner
  | n + 1 => tickLead ++ wrapTicks inner n ++ [.char '>']

/-- Whether the texts of a location show its label. -/
def hasParameter (l : Location) : Bool := l.label != l.kind.name

/-- The display form, such as `Tick<Process<Leader>>` or `Cluster`. -/
def display (l : Location) : Text :=
  wrapTicks
    (if l.hasParameter then l.kind.name ++ .char '<' :: l.label ++ [.char '>'] else l.kind.name)
    l.tickDepth

/-- The canonical form, with a lifetime, such as `Tick<Process<'_, Leader>>`. -/
def canonical (l : Location) : Text :=
  wrapTicks
    (if l.hasParameter then l.kind.name ++ "<'_, ".text ++ l.label ++ [.char '>']
     else l.kind.name ++ "<'_>".text)
    l.tickDepth

/-- The location with another number of Tick layers. -/
def withTickDepth (l : Location) (depth : Nat) : Location := { l with tickDepth := depth }

/-- The location outside all Tick layers. -/
def base (l : Location) : Location := l.withTickDepth 0

/-! ## Checked construction -/

/-- Why data make up no location. -/
inductive Fault where
  | unknownKind (shown : Text)
  | negativeDepth (depth : Int)
deriving DecidableEq, Repr

/-- The wording of a refused construction. -/
def Fault.message : Fault → Text
  | .unknownKind shown => shown ++ " is not a valid LocationKind".text
  | .negativeDepth depth => "tick_depth must be >= 0, got ".text ++ Text.ofInt depth

/-- A number of Tick layers, which must not be negative. -/
def depth? : Int → Except Fault Nat
  | .ofNat n => .ok n
  | .negSucc n => .error (.negativeDepth (.negSucc n))

end Location

end Placement
