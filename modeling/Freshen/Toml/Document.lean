import Freshen.Toml.Scalar
/-! Whole TOML documents. Every reader gets a budget of steps; twice the length of the text is
more than any of them uses. -/

namespace Freshen.Toml

def maxDepth : Nat := 80

def isBare (c : Char) : Bool := c.isAlphanum || c == '-' || c == '_'

def skipComment? : List Char → Option (List Char)
  | [] => some []
  | '\n' :: r => some ('\n' :: r)
  | '\r' :: '\n' :: r => some ('\r' :: '\n' :: r)
  | c :: r => if isControl c then none else skipComment? r

def endLine? (cs : List Char) : Option (List Char) :=
  let afterComment := match skipBlank cs with
    | '#' :: r => skipComment? r
    | r => some r
  match afterComment with
  | some [] => some []
  | some ('\n' :: r) | some ('\r' :: '\n' :: r) => some r
  | _ => none

def skipIdle? : Nat → List Char → Option (List Char)
  | 0, _ => none
  | n + 1, cs =>
    match skipBreaks cs with
    | '#' :: r => (skipComment? r).bind (skipIdle? n)
    | r => some r

def key? (cs : List Char) : Option (String × List Char) :=
  match cs with
  | '"' :: '"' :: '"' :: _ | '\'' :: '\'' :: '\'' :: _ => none
  | '"' :: r => (basic? r).map fun t => (String.ofList t.1, t.2)
  | '\'' :: r => (literal? r).map fun t => (String.ofList t.1, t.2)
  | _ =>
    let word := cs.takeWhile isBare
    if word.isEmpty then none else some (String.ofList word, cs.drop word.length)

def keysWithin? : Nat → List Char → Option (List String × List Char)
  | 0, _ => none
  | n + 1, cs =>
    match key? (skipBlank cs) with
    | none => none
    | some (k, r) =>
      match skipBlank r with
      | '.' :: r => (keysWithin? n r).map fun (ks, r) => (k :: ks, r)
      | r => some ([k], r)

def keys? : List Char → Option (List String × List Char) := keysWithin? maxDepth

mutual

def value? : Nat → Nat → List Char → Option (Value × List Char)
  | 0, _, _ => none
  | n + 1, depth, cs =>
    match cs with
    | '[' :: r =>
      match depth with
      | 0 => none
      | depth + 1 => (items? n depth r).map fun (vs, r) => (.array vs, r)
    | '{' :: r =>
      match depth with
      | 0 => none
      | depth + 1 => (pairs? n depth [] r).map fun (es, r) => (.table .braces es, r)
    | c :: _ =>
      if c = '"' || c = '\'' then
        (quoted? cs).map fun (t, r) => (.string (String.ofList t), r)
      else
        let (word, r) := takeScalar cs
        (scalar? word).map (·, r)
    | [] => none

def items? : Nat → Nat → List Char → Option (List Value × List Char)
  | 0, _, _ => none
  | n + 1, depth, cs =>
    match skipIdle? n cs with
    | some (']' :: r) => some ([], r)
    | some cs =>
      match value? n depth cs with
      | none => none
      | some (v, r) =>
        match skipIdle? n r with
        | some (',' :: r) => (items? n depth r).map fun (vs, r) => (v :: vs, r)
        | some (']' :: r) => some ([v], r)
        | _ => none
    | none => none

def pairs? : Nat → Nat → Table → List Char → Option (Table × List Char)
  | 0, _, _, _ => none
  | n + 1, depth, es, cs =>
    match skipIdle? n cs with
    | some ('}' :: r) => some (es, r)
    | some cs =>
      match keys? cs with
      | some (ks, '=' :: r) =>
        match value? n depth (skipBlank r) with
        | none => none
        | some (v, r) =>
          match assign v true ks es, skipIdle? n r with
          | some es, some (',' :: r) => pairs? n depth es r
          | some es, some ('}' :: r) => some (es, r)
          | _, _ => none
      | _ => none
    | none => none

end

structure Draft where
  root : Table := []
  path : List String := []

namespace Draft

def header? (d : Draft) (begin_ : String → Table → Option Table) (ks : List String) :
    Option Draft :=
  match ks.getLast? with
  | none => none
  | some k => (within (begin_ k) ks.dropLast d.root).map fun root => ⟨root, ks⟩

def assign? (d : Draft) (ks : List String) (v : Value) : Option Draft :=
  (within (assign v true ks) d.path d.root).map fun root => { d with root }

def line? (n : Nat) (d : Draft) (cs : List Char) : Option (Draft × List Char) :=
  match cs with
  | '[' :: '[' :: r =>
    match keys? r with
    | some (ks, ']' :: ']' :: r) => (d.header? beginElement ks).map (·, r)
    | _ => none
  | '[' :: r =>
    match keys? r with
    | some (ks, ']' :: r) => (d.header? beginTable ks).map (·, r)
    | _ => none
  | _ =>
    match keys? cs with
    | some (ks, '=' :: r) =>
      match value? n maxDepth (skipBlank r) with
      | some (v, r) => (d.assign? ks v).map (·, r)
      | none => none
    | _ => none

def lines? : Nat → Draft → List Char → Option Draft
  | 0, _, _ => none
  | n + 1, d, cs =>
    match skipBlank cs with
    | [] => some d
    | '#' :: _ | '\n' :: _ | '\r' :: _ => (endLine? cs).bind (lines? n d)
    | cs =>
      match line? n d cs with
      | none => none
      | some (d, r) => (endLine? r).bind (lines? n d)

end Draft

def parse? (text : String) : Option Table :=
  let cs := match text.toList with
    | '\uFEFF' :: r => r
    | cs => cs
  (Draft.lines? (2 * cs.length + 2) {} cs).map (·.root)

end Freshen.Toml
