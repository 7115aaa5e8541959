import Freshen.Description.Format
import Freshen.Error
/-! Reading a description together with the files it includes. Included files come first, so that
the including one has the last word; a file that includes itself by any way is refused. -/

namespace Freshen.Description

def overlay (base top : RawDescription) : RawDescription where
  settings := top.settings.orElse base.settings
  vars := Keyed.merge base.vars top.vars
  rules := base.rules ++ top.rules

def findInclude (f : Files) (searchPath : List String) (includedFrom : Path) (name : String) :
    Except DescriptionError Path :=
  let missing := DescriptionError.includeMissing ⟨name⟩ includedFrom
  if (Path.mk name).isAbsolute then
    if f.isFile ⟨name⟩ then .ok ⟨name⟩ else .error missing
  else
    let directories := (includedFrom.parent?.getD ⟨""⟩) :: searchPath.map Path.mk
    match (directories.map (·.join name)).find? f.isFile with
    | some p => .ok p
    | none => .error missing

def readOne (text : String) : Except BuildError RawDescription :=
  match Format.parse? text with
  | some raw => .ok raw
  | none => .error .malformed

def offStack (f : Files) (stack : List Path) : Nat := (f.paths.filter (· ∉ stack)).length

theorem offStack_cons_lt {f : Files} {stack : List Path} {p : Path} {s : String}
    (h : f.readText p = .ok s) (hp : f.nameOf p ∉ stack) :
    offStack f (f.nameOf p :: stack) < offStack f stack := by
  refine RuleStore.length_filter_lt (fun q hq => ?_) (Files.nameOf_mem_paths h)
    (by simp) (by simpa using hp)
  simp only [List.mem_cons, not_or, decide_eq_true_eq] at hq ⊢
  exact hq.2

mutual

/-- `stack` holds the files that are being read, innermost first. -/
def load (f : Files) (searchPath : List String) (stack : List Path) (p : Path) :
    Except BuildError RawDescription :=
  if _ : f.nameOf p ∈ stack then
    .error (.description (.includeCycle (stack.reverse ++ [f.nameOf p])))
  else match _ : f.readText p with
  | .error e => .error (.description (.unreadable e))
  | .ok text =>
    match readOne text with
    | .error e => .error e
    | .ok own =>
      if own.includes.isEmpty then .ok own
      else match loadAll f searchPath (f.nameOf p :: stack) p {} own.includes with
      | .error e => .error e
      | .ok merged => .ok (overlay merged own)
  termination_by (offStack f stack, 0)
  decreasing_by exact Prod.Lex.left _ _ (offStack_cons_lt ‹_› ‹_›)

def loadAll (f : Files) (searchPath : List String) (stack : List Path) (includedFrom : Path)
    (merged : RawDescription) : List String → Except BuildError RawDescription
  | [] => .ok merged
  | name :: names =>
    match findInclude f searchPath includedFrom name with
    | .error e => .error (.description e)
    | .ok p =>
      match load f searchPath stack p with
      | .error e => .error e
      | .ok inner => loadAll f searchPath stack includedFrom (overlay merged inner) names
  termination_by names => (offStack f stack, names.length + 1)

end

end Freshen.Description
