/-!
# Documents

Structured output before it has a format: scalars, lists and records. A record keeps the order of
its fields. The formats are in the modules beside this one.
-/
namespace ClusterProbe

inductive Document where
  | null
  | bool (b : Bool)
  | int (n : Int)
  | float (x : Float)
  | text (s : String)
  | list (items : List Document)
  | record (fields : List (String × Document))
  deriving Inhabited

namespace Document

def ofOption {α : Type} (f : α → Document) : Option α → Document
  | some a => f a
  | none => null

def texts (ss : List String) : Document :=
  list (ss.map text)

/-- The value of a field; nothing stands for one that is not there. -/
def field (name : String) : Document → Document
  | record fields => (fields.lookup name).getD null
  | _ => null

def text? : Document → Option String
  | text s => some s
  | _ => none

def int? : Document → Option Int
  | int n => some n
  | _ => none

def bool? : Document → Option Bool
  | bool b => some b
  | _ => none

def float? : Document → Option Float
  | float x => some x
  | _ => none

def items? : Document → Option (List Document)
  | list items => some items
  | _ => none

end Document
end ClusterProbe
