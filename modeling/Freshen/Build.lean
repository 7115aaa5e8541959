import Freshen.Surroundings
/-! Bringing the rules of a build order up to date, one after the other. The first failure ends
the run; what was recorded before it stays recorded. -/

namespace Freshen

structure Options where
  force : Bool := false
  silent : Bool := false
  deriving DecidableEq, Repr, Inhabited

structure Report where
  executed : List String := []
  refreshed : List String := []
  grouped : List String := []
  skipped : List String := []
  deriving DecidableEq, Repr, Inhabited

namespace Report

def isUpToDate (r : Report) : Bool :=
  r.executed.isEmpty && r.refreshed.isEmpty && r.grouped.isEmpty

end Report

inductive Event
  | skipped (target : String)
  | handedOut (job : Job)
  | printed (line : OutputLine)
  | recorded (target : String) (digest : Option Digest)
  | noticed (n : Notice)
  deriving DecidableEq

namespace Event

def notice? : Event → Option Notice
  | noticed n => some n
  | _ => none

def line? : Event → Option OutputLine
  | printed l => some l
  | _ => none

def job? : Event → Option Job
  | handedOut j => some j
  | _ => none

end Event

structure Run (W : Type) where
  world : W
  cache : Cache
  settled : List String := []
  report : Report := {}
  trace : List Event := []
  failure : Option BuildError := none

namespace Run

variable {W : Type}

def tell (r : Run W) (es : List Event) : Run W := { r with trace := r.trace ++ es }

def notice (r : Run W) (ns : List Notice) : Run W := r.tell (ns.map .noticed)

def fail (r : Run W) (e : BuildError) : Run W := { r with failure := some e }

def settle (r : Run W) (t : String) : Run W := { r with settled := t :: r.settled }

def skip (r : Run W) (t : String) : Run W :=
  { (r.settle t).tell [.skipped t] with
    report := { r.report with skipped := r.report.skipped ++ [t] } }

def result (r : Run W) : Except BuildError Report :=
  match r.failure with
  | some e => .error e
  | none => .ok r.report

end Run

structure Plan (W : Type) where
  surroundings : Surroundings W
  root : Path
  rules : RuleStore
  options : Options

namespace Plan

variable {W : Type} (p : Plan W)

def fileExists (w : W) (t : String) : Bool := (p.surroundings.sources p.root w).fileExists t

def ask (r : Run W) (t : String) : Bool × Run W :=
  let (stale, c, ns) := p.surroundings.isStale p.root p.rules r.cache r.world t
  (stale, { r with cache := c }.notice ns)

def isDue (r : Run W) (t : String) : Bool × Run W :=
  if p.options.force then (true, r) else p.ask r t

def record (listed : String → Report → Report) (r : Run W) (t : String) : Run W :=
  let rec_ := p.surroundings.record p.root p.rules r.cache r.world t
  let r := { r with cache := rec_.cache, world := rec_.world }.notice rec_.notices
  match rec_.result with
  | .error e => r.fail (.undigestible e)
  | .ok d => { (r.settle t).tell [.recorded t d] with report := listed t r.report }

def refresh (r : Run W) (t : String) : Run W :=
  if !p.fileExists r.world t then (r.notice [.sourceMissing t]).fail (.missingSource t)
  else
    let (due, r) := p.isDue r t
    if due then
      p.record (fun t rep => { rep with refreshed := rep.refreshed ++ [t] }) r t
    else r.skip t

def outdatedFrom (found : List String) (r : Run W) : List String → List String × Run W
  | [] => (found, r)
  | t :: ts =>
    if t ∈ found then outdatedFrom found r ts
    else if p.options.force || r.cache.wasMade t then outdatedFrom (found ++ [t]) r ts
    else
      let (stale, r) := p.ask r t
      outdatedFrom (if stale then found ++ [t] else found) r ts

def banner (t : String) : OutputLine := ⟨.out, s!"Making target {t}:"⟩

def runRecipe (r : Run W) (rule : Rule) (recipe : String) (outdated : List String) : Run W :=
  let job : Job := ⟨rule.target, recipe, rule.deps, outdated, p.root⟩
  let r := r.tell ((if p.options.silent then [] else [.printed (banner rule.target)]) ++
    [.handedOut job])
  let (response, w) := p.surroundings.execute r.world job
  let r := { r with world := w }.tell (response.lines.map .printed)
  match response.outcome with
  | .error e => r.fail (.notStarted e)
  | .ok (.failed code) =>
    (r.notice [.recipeFailed rule.target code]).fail (.recipeFailed rule.target code)
  | .ok .success =>
    p.record (fun t rep => { rep with executed := rep.executed ++ [t] }) r rule.target

def make (r : Run W) (rule : Rule) (outdated : List String) : Run W :=
  match rule.recipe with
  | some recipe => p.runRecipe r rule recipe outdated
  | none => p.record (fun t rep => { rep with grouped := rep.grouped ++ [t] }) r rule.target

mutual

/-- Brings one target up to date; `path` holds the targets that are being brought up to date. -/
def bring (path : List String) (r : Run W) (t : String) : Run W :=
  if r.failure.isSome || t ∈ r.settled then r
  else if _ : t ∈ path then r
  else if r.cache.wasMade t then r.settle t
  else match _ : p.rules.find? t with
  | none => r
  | some rule =>
    match rule.kind with
    | .filename => p.refresh r t
    | .explicit =>
      let (due, r) := p.isDue r t
      if !due then r.skip t
      else
        let (outdated, r) := p.outdatedFrom [] r rule.deps
        let r := bringAll (t :: path) r outdated
        if r.failure.isSome then r else p.make r rule outdated
  termination_by (p.rules.offPath path, 0)
  decreasing_by exact Prod.Lex.left _ _ (RuleStore.offPath_cons_lt ‹_› ‹_›)

def bringAll (path : List String) (r : Run W) : List String → Run W
  | [] => r
  | t :: ts => bringAll path (if r.cache.wasMade t then r else bring path r t) ts
  termination_by ts => (p.rules.offPath path, ts.length + 1)

end

def run (cache : Cache) (w : W) (order : List Rule) : Run W :=
  order.foldl (fun r rule => p.bring [] r rule.target) { world := w, cache }

end Plan

inductive Standing
  | missing
  | forced
  | stale
  | upToDate
  deriving DecidableEq, Repr

namespace Standing

def text : Standing → String
  | missing => "missing"
  | forced => "forced"
  | stale => "stale"
  | upToDate => "up to date"

end Standing

structure Forecast where
  cache : Cache
  standings : List (Rule × Standing) := []
  notices : List Notice := []

namespace Plan

variable {W : Type} (p : Plan W)

def foresee (w : W) (f : Forecast) (rule : Rule) : Forecast :=
  if rule.kind = .filename && !p.fileExists w rule.target then
    { f with standings := f.standings ++ [(rule, .missing)] }
  else if p.options.force then { f with standings := f.standings ++ [(rule, .forced)] }
  else
    let (stale, c, ns) := p.surroundings.isStale p.root p.rules f.cache w rule.target
    ⟨c, f.standings ++ [(rule, if stale then .stale else .upToDate)], f.notices ++ ns⟩

def forecast (cache : Cache) (w : W) (order : List Rule) : Forecast :=
  order.foldl (p.foresee w) { cache }

end Plan

namespace Forecast

def lines (f : Forecast) : List String := f.standings.map fun e => s!"{e.1.line} [{e.2.text}]"

end Forecast
end Freshen
