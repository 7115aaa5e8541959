import Freshen.Files
import Freshen.Notice
import Freshen.RuleStore
import Freshen.StoreError
/-! Whether a target is out of date, judged by the digests stored when it was last made. Every
doubt counts as out of date. Answers "up to date" are kept until something is made. -/

namespace Freshen

structure Outlook where
  rules : RuleStore
  sources : Sources
  load : String → Except StoreError (Option String)
  made : List String

namespace Outlook

def digestOf (sources : Sources) (r : Rule) : Except DigestError Digest :=
  match r.kind with
  | .explicit => .ok (fingerprintText (r.recipe.getD ""))
  | .filename => sources.files.digest (sources.pathOf r.target)

def differs (o : Outlook) (t : String) (r : Rule) : Bool × List Notice :=
  match digestOf o.sources r with
  | .error e => (true, [.undigestible t e.trail.headline])
  | .ok d =>
    match o.load t with
    | .ok stored => (stored ≠ some d.hex, [])
    | .error e => (true, [.lookupFailed t e.trail.headline])

end Outlook

structure Survey where
  known : List (String × Bool) := []
  fresh : List String
  notices : List Notice := []
  deriving DecidableEq

namespace Survey

def conclude (v : Survey) (t : String) (stale : Bool) : Survey :=
  { v with known := (t, stale) :: v.known, fresh := if stale then v.fresh else t :: v.fresh }

def report (v : Survey) (ns : List Notice) : Survey := { v with notices := v.notices ++ ns }

mutual

/-- A name met again on its own path adds nothing. -/
def ask (o : Outlook) (path : List String) (v : Survey) (t : String) : Bool × Survey :=
  if t ∈ o.made || t ∈ v.fresh then (false, v)
  else match v.known.lookup t with
  | some stale => (stale, v)
  | none =>
    if _ : t ∈ path then (false, v)
    else match _ : o.rules.find? t with
    | none => (true, v.conclude t true)
    | some r =>
      if r.alwaysStale then (true, v.conclude t true)
      else
        let (stale, v) := askAny o (t :: path) v r.deps
        if stale then (true, v.conclude t true)
        else
          let (stale, ns) := o.differs t r
          (stale, (v.report ns).conclude t stale)
  termination_by (o.rules.offPath path, 0)
  decreasing_by exact Prod.Lex.left _ _ (RuleStore.offPath_cons_lt ‹_› ‹_›)

def askAny (o : Outlook) (path : List String) (v : Survey) : List String → Bool × Survey
  | [] => (false, v)
  | t :: ts =>
    if t ∈ o.made then (true, v)
    else
      let (stale, v) := ask o path v t
      if stale then (true, v) else askAny o path v ts
  termination_by ts => (o.rules.offPath path, ts.length + 1)

end

end Survey

structure Cache where
  buildId : String
  made : List String := []
  fresh : List String := []
  deriving DecidableEq, Repr

namespace Cache

def wasMade (c : Cache) (t : String) : Bool := t ∈ c.made

def isStale (c : Cache) (rules : RuleStore) (sources : Sources)
    (load : String → String → Except StoreError (Option String)) (t : String) :
    Bool × Cache × List Notice :=
  let (stale, v) := Survey.ask ⟨rules, sources, load c.buildId, c.made⟩ [] { fresh := c.fresh } t
  (stale, { c with fresh := v.fresh }, v.notices)

/-- After something is made no earlier answer holds. -/
def noteMade (c : Cache) (t : String) : Cache :=
  { c with made := if t ∈ c.made then c.made else c.made ++ [t], fresh := [] }

end Cache
end Freshen
