/-! The shape of shell commands. -/

namespace Freshen.Shell

inductive Dialect
  | dash
  | bash
  deriving DecidableEq, Repr

inductive Spot
  | first
  | every
  | beginning
  | ending
  deriving DecidableEq, Repr

/-- What follows a branch of a choice that was taken: nothing more, the next branch whatever its
patterns are, or the search for another branch. -/
inductive Ending
  | done
  | fallThrough
  | searchOn
  deriving DecidableEq, Repr

mutual

inductive Part
  | literal (s : String)
  | quoted (s : String)
  | parameter (name : String) (index : Option (List Part)) (change : Change) (inQuotes : Bool)
  | command (c : Command) (inQuotes : Bool)
  | arithmetic (w : List Part) (inQuotes : Bool)
  | channel (c : Command) (reads : Bool)

inductive Change
  | asIs
  | length
  | fallback (operator : Char) (colon : Bool) (w : List Part)
  | trimmed (suffix longest : Bool) (pattern : List Part)
  | replaced (spot : Spot) (pattern replacement : List Part)
  | slice (first : List Part) (count : Option (List Part))
  | cased (upper all : Bool) (pattern : List Part)
  | indirect (change : Change)
  | names
  | operation (letter : Char)
  | unknown (text : String)

inductive Direction
  | read (file : List Part)
  | write (file : List Part)
  | overwrite (file : List Part)
  | append (file : List Part)
  | both (file : List Part)
  | duplicate (source : List Part)
  | writeAll (file : List Part) (append : Bool)
  | text (body : List Part)
  | line (body : List Part)

inductive Redirect
  | mk (descriptor : Nat) (direction : Direction)

inductive Assignment
  | value (name : String) (index : Option (List Part)) (appends : Bool) (w : List Part)
  | list (name : String) (appends : Bool) (items : List (Option (List Part) × List Part))

inductive Question
  | word (w : List Part)
  | unary (operator : String) (w : List Part)
  | binary (a : List Part) (operator : String) (b : List Part)
  | negated (q : Question)
  | both (a b : Question)
  | either (a b : Question)

inductive Command
  | nothing
  | simple (line : Nat) (assigns : List Assignment) (words : List (List Part))
      (redirects : List Redirect)
  | redirected (c : Command) (redirects : List Redirect)
  | pipe (stages : List Command)
  | negated (c : Command)
  | both (a b : Command)
  | either (a b : Command)
  | sequence (a b : Command)
  | background (c : Command)
  | subshell (c : Command)
  | ifThen (condition yes no : Command)
  | loop (until_ : Bool) (condition body : Command)
  | forEach (line : Nat) (name : String) (words : Option (List (List Part))) (body : Command)
  | forCount (line : Nat) (first condition next : List Part) (body : Command)
  | choose (line : Nat) (w : List Part) (branches : Command)
  | branch (patterns : List (List Part)) (body : Command) (ending : Ending) (rest : Command)
  | define (line : Nat) (name : String) (body : Command)
  | arithmetic (line : Nat) (w : List Part)
  | question (line : Nat) (q : Question)
  | timed (c : Command)

end

abbrev Word := List Part

instance : Inhabited Command := ⟨.nothing⟩

def Word.bare? (w : Word) : Option String :=
  (w.mapM fun p => match p with
    | Part.literal s => some s
    | _ => none).map String.join

def Word.typed : Word → String
  | [] => ""
  | .literal s :: w | .quoted s :: w => s ++ Word.typed w
  | _ :: w => Word.typed w

def Word.raw : Word → String
  | [] => ""
  | .literal s :: w | .quoted s :: w => s ++ Word.raw w
  | .parameter name .. :: w => "$" ++ name ++ Word.raw w
  | _ :: w => Word.raw w

def isBlank (c : Char) : Bool := c == ' ' || c == '\t'

def isNameStart (c : Char) : Bool := c.isAlpha || c == '_'
def isNamePart (c : Char) : Bool := c.isAlphanum || c == '_'

def isName (s : List Char) : Bool :=
  match s with
  | c :: cs => isNameStart c && cs.all isNamePart
  | [] => false

end Freshen.Shell
