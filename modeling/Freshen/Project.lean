import Freshen.Build
import Freshen.CommandLine
import Freshen.Description.Load
import Freshen.DigestStore
/-! Building the goal of a described project, with its digests in a store on the disk. -/

namespace Freshen

structure Site (X : Type) where
  files : Disk → X → Files
  execute : Disk → X → Job → Response × Disk × X

structure World (X : Type) where
  disk : Disk
  store : DigestStore
  rest : X

namespace Site

variable {X : Type} (s : Site X)

def surroundings : Surroundings (World X) where
  files w := s.files w.disk w.rest
  load w id t := w.store.load w.disk id t
  save w id t digest :=
    let saving := w.store.save w.disk id t digest
    (saving.result, { w with disk := saving.disk, store := saving.store })
  execute w j :=
    let (response, disk, rest) := s.execute w.disk w.rest j
    (response, { w with disk, rest })

end Site

structure BuildResult (X : Type) where
  result : Except BuildError Report
  disk : Disk
  rest : X
  events : List Event := []

namespace Project

variable {X : Type}

def line (text : String) : Event := .printed ⟨.out, text⟩

def buildId (f : Files) (description : Path) : String := (f.nameOf description).text

def forecastLines (goal : String) (f : Forecast) : List String :=
  s!"hashmake dry-run (goal: {goal})" :: f.lines.map ("  " ++ ·)

def foresee (plan : Plan (World X)) (cache : Cache) (w : World X) (goal : String)
    (order : List Rule) : BuildResult X :=
  let f := plan.forecast cache w order
  ⟨.ok {}, w.disk, w.rest, f.notices.map .noticed ++ (forecastLines goal f).map line⟩

def carryOut (plan : Plan (World X)) (cache : Cache) (w : World X) (goal : String)
    (order : List Rule) : BuildResult X :=
  let r := plan.run cache w order
  let idle := match r.result with
    | .ok rep => rep.executed.isEmpty && !plan.options.silent
    | .error _ => false
  ⟨r.result, r.world.disk, r.world.rest,
    r.trace ++ if idle then [line s!"hashmake: '{goal}' is up to date."] else []⟩

def build (site : Site X) (disk : Disk) (rest : X) (description : Path) (d : Description)
    (request : Request) : BuildResult X :=
  let files := site.files disk rest
  let root := projectRoot disk.current.path description
  let rules := d.declareInto {}
  let rules := match request.goal with
    | some g => rules.setGoal g
    | none => rules
  match rules.goal with
  | none => ⟨.error (.description .noGoal), disk, rest, []⟩
  | some goal =>
    let resolution := rules.resolve goal (Sources.fileExists ⟨files, root⟩)
    match resolution.outcome with
    | .error e => ⟨.error (.unresolved e), disk, rest, [.noticed e.notice]⟩
    | .ok order =>
      let cache : Cache := { buildId := buildId files description }
      let plan : Plan (World X) :=
        ⟨site.surroundings, root, resolution.rules, ⟨request.force, request.silent⟩⟩
      let backend := d.settings.effectiveBackend
      let location := backend.location root d.settings.cachePath
      let opening := if request.dryRun then DigestStore.openReadOnlyAt disk backend location
        else DigestStore.openAt disk backend location
      let opened := opening.notices.map Event.noticed
      match opening.store with
      | .error e =>
        ⟨.error (.cacheUnavailable (location.getD ⟨""⟩) e), opening.disk, rest, opened⟩
      | .ok store =>
        let w : World X := ⟨opening.disk, store, rest⟩
        let b := if request.dryRun then foresee plan cache w goal order
          else carryOut plan cache w goal order
        { b with events := opened ++ b.events }

end Project
end Freshen
