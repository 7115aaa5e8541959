import Freshen.Keyed
/-! TOML values, with as much of a table's origin as decides what may be added to it later. -/

namespace Freshen.Toml

inductive Origin
  | braces
  | passing
  | dotted
  | header
  deriving DecidableEq, Repr

/-- Numbers are checked while reading, but their values are not kept; of a point in time its
settled spelling is. -/
inductive Value
  | string (s : String)
  | boolean (b : Bool)
  | number
  | moment (text : String)
  | array (items : List Value)
  | tables (ts : List (List (String × Value)))
  | table (origin : Origin) (entries : List (String × Value))
  deriving Inhabited

abbrev Table := List (String × Value)

def within (f : Table → Option Table) : List String → Table → Option Table
  | [], es => f es
  | k :: ks, es =>
    match Keyed.get? es k with
    | none => (within f ks []).map fun sub => Keyed.set k (.table .passing sub) es
    | some (.table .braces _) => none
    | some (.table o sub) => (within f ks sub).map fun sub => Keyed.set k (.table o sub) es
    | some (.tables ts) =>
      match ts.getLast? with
      | none => none
      | some last =>
        (within f ks last).map fun last => Keyed.set k (.tables (ts.dropLast ++ [last])) es
    | some _ => none

def beginTable (k : String) (es : Table) : Option Table :=
  match Keyed.get? es k with
  | none => some (Keyed.set k (.table .header []) es)
  | some (.table .passing sub) => some (Keyed.set k (.table .header sub) es)
  | some _ => none

def beginElement (k : String) (es : Table) : Option Table :=
  match Keyed.get? es k with
  | none => some (Keyed.set k (.tables [[]]) es)
  | some (.tables ts) => some (Keyed.set k (.tables (ts ++ [[]])) es)
  | some _ => none

/-- Gives `v` the dotted key. `direct` says that the table in hand may take the key's last part:
the table in force may, and one that dotted keys brought about. The parts before it lead through
tables that dotted keys or longer headers brought about, and to the last table of an array. -/
def assign (v : Value) (direct : Bool) : List String → Table → Option Table
  | [], _ => none
  | [k], es =>
    if direct && (Keyed.get? es k).isNone then some (Keyed.set k v es) else none
  | k :: ks, es =>
    match Keyed.get? es k with
    | none => (assign v true ks []).map fun sub => Keyed.set k (.table .dotted sub) es
    | some (.table .passing sub) =>
      (assign v false ks sub).map fun sub => Keyed.set k (.table .passing sub) es
    | some (.table .dotted sub) =>
      (assign v true ks sub).map fun sub => Keyed.set k (.table .dotted sub) es
    | some (.tables ts) =>
      match ts.getLast? with
      | none => none
      | some last =>
        (assign v false ks last).map fun last => Keyed.set k (.tables (ts.dropLast ++ [last])) es
    | some _ => none

end Freshen.Toml
