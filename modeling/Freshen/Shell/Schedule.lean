import Freshen.Shell.Perform
/-! Which process runs when. The first that can go on does so until it has to wait; time passes only
when none can. -/

namespace Freshen.Shell

structure Waiting where
  pause : Pause
  next : World → Running Unit

namespace Schedule

open Run

def runner : Runner := Perform.run Perform.depth

def redirectedFor (redirects : List Redirect) (body : Run Unit) : Run Unit := do
  match ← Redirection.applyAll (Script.means runner) redirects with
  | some f => Perform.redirectFailure f
  | none =>
    let c ← get
    modifyWorld (·.rehold c)
    body

def body : Task → Run Unit
  | .command (.redirected c redirects) => redirectedFor redirects (runner false c)
  | .command c => do
    let isAlone := match c with
      | .simple .. => true
      | _ => false
    modify fun k => { k with isAlone }
    runner false c
  | .program name args => do
    modify fun k => { k with isAlone := true }
    let missing (_ : OsError) : Run Fate := return .exited 127
    match ← Launch.launch runner Launch.depth name args missing with
    | .exited n => setStatus n
    | .signalled n => throw (.killed n)

def begin (s : Seed) : Waiting where
  pause := { isOver := fun _ => true }
  next w :=
    (ExceptT.run (Script.conclude runner (body s.task)) s.context w).bind fun (r, c) w =>
      let fate := match r with
        | .ok fate => fate
        | .error (.killed n) => .signalled n
        | .error _ => .exited (c.status % 256)
      .finished () (w.finish s.context.process fate)

def ready? (w : World) : List Waiting → Option (Waiting × List Waiting)
  | [] => none
  | p :: ps =>
    if p.pause.isOver w then some (p, ps)
    else (ready? w ps).map fun (q, qs) => (q, p :: qs)

def nextMoment? (ps : List Waiting) : Option Int := (ps.filterMap (·.pause.latest)).min?

def turn (p : Waiting) (rest : List Waiting) (w : World) : List Waiting × World :=
  match p.next w with
  | .finished _ w => (rest, w)
  | .paused pause w next => (rest ++ [⟨pause, next⟩], w)

def run (isOver : World → Bool) : Nat → List Waiting → World → World
  | 0, _, w => w
  | n + 1, ps, w =>
    let ps := w.seeds.map begin ++ ps
    let w := { w with seeds := [] }
    match ready? w ps with
    | some (p, rest) =>
      let (ps, w) := turn p rest w
      run isOver n ps w
    | none =>
      if isOver w then w
      else match nextMoment? ps with
      | some t => run isOver n ps { w with disk := { w.disk with clock := max w.disk.clock t } }
      | none => w

def limit : Nat := 10000000

end Schedule
end Freshen.Shell
