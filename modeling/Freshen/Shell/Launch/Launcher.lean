import Freshen.Shell.Launch.Basic
/-! How programs start others. -/

namespace Freshen.Shell

abbrev Launcher := String → List String → (OsError → Run Fate) → Run Fate

namespace Launch

def within (change : Context → Context) (body : Run Fate) : Run Fate := do
  let c ← get
  set (change c)
  let fate ← tryCatch body fun f => do
    set c
    throw f
  set c
  return fate

def apart (body : Run Fate) : Run Fate := within (fun c => { c with isAlone := false }) body

end Launch
end Freshen.Shell
