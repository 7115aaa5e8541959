import Freshen.Project
/-! Builds whose recipes are played from a script instead of being run, with source files in
memory. -/

namespace Freshen

structure Script where
  failing : List (String × Int) := []
  broken : List String := []
  effects : List (String × List (Path × Option ByteArray)) := []

structure Stage where
  files : FileSet := {}
  script : Script := {}
  jobs : List Job := []

namespace Stage

def change (s : FileSet) : Path × Option ByteArray → FileSet
  | (p, some bytes) => s.insert p bytes
  | (p, none) => s.erase p

def changes (st : Stage) (t : String) : List (Path × Option ByteArray) :=
  (Keyed.get? st.script.effects t).getD []

def perform (st : Stage) (j : Job) : Response × Stage :=
  if j.target ∈ st.script.broken then
    (⟨.error (.refused s!"cannot start recipe of {j.target}"), []⟩, st)
  else
    let outcome := match Keyed.get? st.script.failing j.target with
      | some code => Outcome.failed code
      | none => .success
    (⟨.ok outcome, []⟩,
      { st with
        files := (st.changes j.target).foldl change st.files
        jobs := st.jobs ++ [j] })

def site : Site Stage where
  files _ st := st.files.files
  execute disk st j :=
    let (response, st) := st.perform j
    (response, disk, st)

end Stage

structure Ledger where
  entries : Entries := []
  refusesLoad : Bool := false
  refusesSave : Bool := false

namespace Ledger

def load (l : Ledger) (id target : String) : Except StoreError (Option String) :=
  if l.refusesLoad then .error (.refused "load refused")
  else .ok (Keyed.get? l.entries (id, target))

def save (l : Ledger) (id target digest : String) : Except StoreError Unit × Ledger :=
  if l.refusesSave then (.error (.refused "save refused"), l)
  else (.ok (), { l with entries := Keyed.set (id, target) digest l.entries })

end Ledger

structure Rehearsal where
  stage : Stage := {}
  ledger : Ledger := {}

namespace Rehearsal

def surroundings : Surroundings Rehearsal where
  files w := w.stage.files.files
  load w id t := w.ledger.load id t
  save w id t digest :=
    let (result, ledger) := w.ledger.save id t digest
    (result, { w with ledger })
  execute w j :=
    let (response, stage) := w.stage.perform j
    (response, { w with stage })

end Rehearsal
end Freshen
