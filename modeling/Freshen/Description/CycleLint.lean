import Freshen.Description.Basic
import Freshen.Notice
/-! Looking for a dependency cycle among described rules. Two depth-first searches: the first
orders the names by their finishing, the second goes back along dependencies from the last finished
and must not get from one name to another that was not met before. -/

namespace Freshen.Description

structure Graph where
  nodes : List String := []
  edges : List (String × String) := []
  deriving DecidableEq, Repr

namespace Graph

def addNode (g : Graph) (n : String) : Graph :=
  if n ∈ g.nodes then g else { g with nodes := g.nodes ++ [n] }

def addEdge (g : Graph) (a b : String) : Graph :=
  let g := (g.addNode a).addNode b
  if (a, b) ∈ g.edges then g else { g with edges := g.edges ++ [(a, b)] }

def addRule (g : Graph) (r : RuleEntry) : Graph :=
  r.deps.foldl (fun g d => g.addEdge d r.target) (g.addNode r.target)

def ofRules (rules : List RuleEntry) : Graph := rules.foldl addRule {}

def successors (g : Graph) (n : String) : List String := (g.edges.filter (·.1 = n)).map (·.2)

def predecessors (g : Graph) (n : String) : List String := (g.edges.filter (·.2 = n)).map (·.1)

/-- `left` holds the names not yet discovered, `finished` the finished ones, last first. A name
that is its own successor ends the search. -/
def finish (g : Graph) (left finished : List String) :
    List String → Except String (List String × List String)
  | [] => .ok (left, finished)
  | n :: stack =>
    if _ : n ∈ left then
      if n ∈ g.successors n then .error n
      else
        let left := left.erase n
        finish g left finished (((g.successors n).filter (· ∈ left)).reverse ++ n :: stack)
    else finish g left (if n ∈ finished then finished else n :: finished) stack
  termination_by stack => (left.length, stack.length)
  decreasing_by
    · refine Prod.Lex.left _ _ ?_
      have := List.length_pos_of_mem ‹n ∈ _›
      rw [List.length_erase_of_mem ‹_›]; omega
    · exact Prod.Lex.right _ (by simp)

def finishAll (g : Graph) (left finished : List String) :
    List String → Except String (List String)
  | [] => .ok finished
  | n :: ns =>
    if n ∈ left then
      match g.finish left finished [n] with
      | .error c => .error c
      | .ok (left, finished) => finishAll g left finished ns
    else finishAll g left finished ns

def retrace (g : Graph) (left : List String) (met : Bool) :
    List String → Except String (List String)
  | [] => .ok left
  | n :: stack =>
    if _ : n ∈ left then
      if met then .error n
      else
        let left := left.erase n
        retrace g left true (((g.predecessors n).filter (· ∈ left)).reverse ++ stack)
    else retrace g left met stack
  termination_by stack => (left.length, stack.length)
  decreasing_by
    · refine Prod.Lex.left _ _ ?_
      have := List.length_pos_of_mem ‹n ∈ _›
      rw [List.length_erase_of_mem ‹_›]; omega
    · exact Prod.Lex.right _ (by simp)

def retraceAll (g : Graph) (left : List String) : List String → Option String
  | [] => none
  | n :: ns =>
    match g.retrace left false [n] with
    | .error c => some c
    | .ok left => retraceAll g left ns

def cycle? (g : Graph) : Option String :=
  match g.finishAll g.nodes [] g.nodes with
  | .error c => some c
  | .ok finished => g.retraceAll g.nodes finished

end Graph

def lintCycles (rules : List RuleEntry) : List Notice :=
  match (Graph.ofRules rules).cycle? with
  | some n => [.describedCycle n]
  | none => []

end Freshen.Description
