import Freshen.Text.Blank
import Freshen.Text.Pieces
/-! File paths as text: components, joining, parents. Nothing here looks at a disk. -/

namespace Freshen

structure Path where
  text : String
  deriving DecidableEq, Repr, Inhabited

inductive Component
  | root
  | here
  | up
  | name (s : String)
  deriving DecidableEq, Repr

namespace Component

def text : Component → String
  | root => "/"
  | here => "."
  | up => ".."
  | name s => s

end Component

namespace Path

def lead (cs : List Char) : List Char × List Char :=
  match cs with
  | '/' :: rest => (['/'], rest)
  | ['.'] => (['.'], [])
  | '.' :: '/' :: rest => (['.'], '/' :: rest)
  | cs => ([], cs)

def isIdle (s : List Char) : Bool := s == [] || s == ['.']

def segment (s : List Char) : Component := if s = ['.', '.'] then .up else .name (String.ofList s)

def components (p : Path) : List Component :=
  let (front, body) := lead p.text.toList
  let first := match front with
    | [] => []
    | '/' :: _ => [.root]
    | _ => [.here]
  first ++ ((Text.pieces '/' body).filter (!isIdle ·)).map segment

def isAbsolute (p : Path) : Bool := p.text.toList.head? == some '/'

def parent? (p : Path) : Option Path :=
  let (front, body) := lead p.text.toList
  match (Text.pieces '/' body).reverse.dropWhile isIdle with
  | _ :: rest =>
    some ⟨String.ofList (front ++ Text.joined '/' (rest.dropWhile isIdle).reverse)⟩
  | [] => if front = ['.'] then some ⟨""⟩ else none

def join (base : Path) (p : String) : Path :=
  if (Path.mk p).isAbsolute then ⟨p⟩
  else if base.text.toList.getLast?.all (· == '/') then ⟨base.text ++ p⟩
  else ⟨base.text ++ "/" ++ p⟩

def ofComponents (cs : List Component) : Path := cs.foldl (fun p c => p.join c.text) ⟨""⟩

def plain (p : Path) : Path := ofComponents (p.components.filter (· ≠ .here))

def withoutSlashes (p : Path) : Path :=
  match p.text.toList.reverse.dropWhile (· = '/') with
  | [] => p
  | cs => ⟨String.ofList cs.reverse⟩

def startsWith (p base : Path) : Bool := base.components.isPrefixOf p.components

theorem join_absolute {base : Path} {p : String} (h : (Path.mk p).isAbsolute) :
    base.join p = ⟨p⟩ := by
  simp [join, h]

end Path
end Freshen
