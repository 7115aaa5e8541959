import Freshen.Shell.Expansion
/-! Giving values to variables and to the elements of arrays. -/

namespace Freshen.Shell.Binding

open Run

def storable (v : Variable) (old : Option String) (appends : Bool) (value : String) :
    Run String := do
  if v.isInteger then
    let n ← Expansion.evaluate value
    if appends then return toString (Arithmetic.wrap ((← Expansion.evaluate (old.getD "0")) + n))
    else return toString n
  else return if appends then old.getD "" ++ value else value

def keyOf (name : String) (v : Variable) (index : String) : Run String := do
  if v.isKeyed then return index
  else
    let k ← Expansion.evaluate index
    let k := if k < 0 then v.nextKey + k else k
    if k < 0 then Expansion.refuseOnce s!"{name}[{index}]: bad array subscript"
    else return toString k

def withExport (c : Context) (v : Variable) : Variable :=
  { v with isExported := v.isExported || c.settings.exportsAll }

def noticed (x : String) (c : Context) : Context :=
  if x = "OPTIND" then { c with optionPlace := 0 } else c

def force (x : String) (index : Option String) (appends : Bool) (value : String) : Run Unit := do
  let v := ((← get).binding? x).getD {}
  match index with
  | none =>
    let value ← storable v v.scalar? appends value
    modify fun c => noticed x (c.bind_ x (withExport c (v.setScalar value)))
  | some i =>
    let key ← keyOf x v i
    let value ← storable v (Keyed.get? v.asArray.elements key) appends value
    modify fun c => c.bind_ x (withExport c (v.setElement key value))

def fault? (c : Context) (x : String) : Option String :=
  if c.isReadonly x then some (Expansion.readonlyText c.dialect x) else none

def store (x : String) (index : Option String) (appends : Bool) (value : String) : Run Unit := do
  match fault? (← get) x with
  | some text => Expansion.refuseOnce text
  | none => force x index appends value

def forceList (x : String) (appends : Bool) (items : List (Option String × String)) :
    Run Unit := do
  let old := ((← get).binding? x).getD {}
  let start : Variable := if appends then old.asArray
    else { old with isArray := true, value := none, elements := [] }
  modify fun c => c.bind_ x (withExport c start)
  for (key, value) in items do
    let v := ((← get).binding? x).getD {}
    match key with
    | some i => force x (some i) false value
    | none =>
      if v.isKeyed then force x (some value) false ""
      else force x (some (toString v.nextKey)) false value

def storeList (x : String) (appends : Bool) (items : List (Option String × String)) :
    Run Unit := do
  match fault? (← get) x with
  | some text => Expansion.refuseOnce text
  | none => forceList x appends items

def place (x : String) : String × Option String :=
  match x.toList.dropWhile (· ≠ '[') with
  | [] => (x, none)
  | _ :: i => (String.ofList (x.toList.takeWhile (· ≠ '[')), some (String.ofList i.dropLast))

def isPlace (d : Dialect) (x : String) : Bool :=
  match place x with
  | (name, none) => isName name.toList
  | (name, some _) => d = .bash && isName name.toList && x.endsWith "]"

def ofText? (w : String) : Option (String × String × Bool) :=
  let name := w.toList.takeWhile (· ≠ '=')
  match w.toList.drop name.length with
  | _ :: value =>
    let appends := name.getLast? = some '+'
    some (String.ofList (if appends then name.dropLast else name), String.ofList value, appends)
  | [] => none

def hide (x : String) (c : Context) : Context :=
  match c.hidden with
  | [] => c
  | frame :: frames =>
    if frame.any (·.1 = x) then c
    else
      let old := c.binding? x
      let c := { c with hidden := ((x, old) :: frame) :: frames }
      match c.dialect with
      | .dash => c
      | .bash => c.bind_ x { isExported := false }

def enter (c : Context) : Context := { c with calls := c.calls + 1, hidden := [] :: c.hidden }

def leave (c : Context) : Context :=
  match c.hidden with
  | [] => c
  | frame :: frames =>
    let c := { c with calls := c.calls - 1, hidden := frames }
    frame.foldl (fun c e => noticed e.1 (match e.2 with
      | some v => c.bind_ e.1 v
      | none => c.unset e.1)) c

end Freshen.Shell.Binding
