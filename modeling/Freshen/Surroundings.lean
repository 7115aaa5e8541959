import Freshen.Error
import Freshen.Staleness
/-! What a build works on: files, a digest store and something that runs recipes, all parts of one
state. -/

namespace Freshen

structure Surroundings (W : Type) where
  files : W → Files
  load : W → (id target : String) → Except StoreError (Option String)
  save : W → (id target digest : String) → Except StoreError Unit × W
  execute : W → Job → Response × W

structure Recording (W : Type) where
  result : Except DigestError (Option Digest)
  cache : Cache
  world : W
  notices : List Notice := []

namespace Surroundings

variable {W : Type} (s : Surroundings W)

def sources (root : Path) (w : W) : Sources := ⟨s.files w, root⟩

def isStale (root : Path) (rules : RuleStore) (c : Cache) (w : W) (t : String) :
    Bool × Cache × List Notice :=
  c.isStale rules (s.sources root w) (s.load w) t

/-- Notes that a target has been made and stores its digest. A store that refuses is reported and
nothing more; the target counts as made even if it has no digest. -/
def record (root : Path) (rules : RuleStore) (c : Cache) (w : W) (t : String) : Recording W :=
  let c := c.noteMade t
  match rules.find? t with
  | none => ⟨.ok none, c, w, [.unrecordable t]⟩
  | some r =>
    match Outlook.digestOf (s.sources root w) r with
    | .error e => ⟨.error e, c, w, []⟩
    | .ok d =>
      match s.save w c.buildId t d.hex with
      | (.ok (), w) => ⟨.ok (some d), c, w, []⟩
      | (.error e, w) => ⟨.ok (some d), c, w, [.updateFailed t e.trail.headline]⟩

end Surroundings
end Freshen
