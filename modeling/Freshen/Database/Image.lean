import Freshen.Database
/-! Databases as the contents of files: a byte that begins no text, then the tables. A field is
written after its length, a table after the number of its rows. -/

namespace Freshen.Database

def imageMark : UInt8 := 0xFF

def fieldText (f : String) : String := toString f.length ++ ":" ++ f

def tableText : Option (List (List String)) → String
  | none => "-"
  | some rows => toString rows.length ++ ";" ++ String.join (rows.flatMap (·.map fieldText))

def metaRow (r : String × String) : List String := [r.1, r.2]
def cacheRow (r : (String × String) × String) : List String := [r.1.1, r.1.2, r.2]

def image (d : Database) : ByteArray :=
  ⟨#[imageMark]⟩ ++
    (tableText (d.meta_.map (·.map metaRow)) ++ tableText (d.cache.map (·.map cacheRow))).toUTF8

def number? (stop : Char) (cs : List Char) : Option (Nat × List Char) :=
  match cs.takeWhile Char.isDigit, cs.dropWhile Char.isDigit with
  | ds, c :: r => if c = stop then (String.ofList ds).toNat?.map (·, r) else none
  | _, [] => none

def field? (cs : List Char) : Option (String × List Char) := do
  let (n, r) ← number? ':' cs
  if r.length < n then none else return (String.ofList (r.take n), r.drop n)

def fields? : Nat → List Char → Option (List String × List Char)
  | 0, cs => some ([], cs)
  | n + 1, cs => do
    let (f, r) ← field? cs
    let (fs, r) ← fields? n r
    return (f :: fs, r)

def rows? (width : Nat) : Nat → List Char → Option (List (List String) × List Char)
  | 0, cs => some ([], cs)
  | n + 1, cs => do
    let (row, r) ← fields? width cs
    let (rows, r) ← rows? width n r
    return (row :: rows, r)

def table? (width : Nat) : List Char → Option (Option (List (List String)) × List Char)
  | '-' :: r => some (none, r)
  | cs => do
    let (n, r) ← number? ';' cs
    let (rows, r) ← rows? width n r
    return (some rows, r)

def ofText? (cs : List Char) : Option Database := do
  let (metaRows, r) ← table? 2 cs
  let (cacheRows, r) ← table? 3 r
  if r ≠ [] then none
  else return {
    meta_ := metaRows.map (·.map fun r => (r.getD 0 "", r.getD 1 ""))
    cache := cacheRows.map (·.map fun r => ((r.getD 0 "", r.getD 1 ""), r.getD 2 "")) }

def ofImage? (bytes : ByteArray) : Option Database :=
  match bytes.data.toList with
  | b :: rest =>
    if b = imageMark then (String.fromUTF8? ⟨rest.toArray⟩).bind fun s => ofText? s.toList
    else none
  | [] => none

end Freshen.Database
