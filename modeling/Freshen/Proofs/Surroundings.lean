import Freshen.Build
import Freshen.Proofs.Staleness

/-! What a build relies on: the digest store is a thing of its own, and source files are seen as
they are. -/

namespace Freshen

def Sources.sight (s : Sources) (t : String) : Bool × Except FileError (Except OsError ByteArray) :=
  (s.fileExists t, s.files.openRead (s.pathOf t))

lemma Sources.fileExists_congr {a b : Sources} {t : String} (h : a.sight t = b.sight t) :
    a.fileExists t = b.fileExists t := congrArg Prod.fst h

lemma Outlook.digestOf_congr {a b : Sources} {r : Rule} (hr : a.root = b.root)
    (h : r.kind = .filename → a.sight r.target = b.sight r.target) :
    digestOf a r = digestOf b r := by
  unfold digestOf
  cases hk : r.kind with
  | explicit => rfl
  | filename =>
    have ho : a.files.openRead (a.pathOf r.target) = b.files.openRead (b.pathOf r.target) :=
      congrArg Prod.snd (h hk)
    have hp : a.pathOf r.target = b.pathOf r.target := by rw [Sources.pathOf, hr, Sources.pathOf]
    rw [hp] at ho
    simp only [Files.digest, hp, ho]

lemma Outlook.digestOf_explicit (s : Sources) {r : Rule} (h : r.kind = .explicit) :
    digestOf s r = .ok (fingerprintText (r.recipe.getD "")) := by
  unfold digestOf
  rw [h]

lemma Outlook.filename_of_error {s : Sources} {r : Rule} {e : DigestError}
    (h : digestOf s r = .error e) : r.kind = .filename := by
  cases hk : r.kind with
  | filename => rfl
  | explicit =>
    rw [digestOf_explicit s hk] at h
    cases h

lemma Outlook.trusted_congr {o o' : Outlook} {t : String}
    (hroot : o.sources.root = o'.sources.root)
    (hr : o.rules.find? t = o'.rules.find? t) (hl : o.load t = o'.load t)
    (hs : (o.rules.ruleFor t).kind = .filename → o.sources.sight t = o'.sources.sight t) :
    o.Trusted t ↔ o'.Trusted t := by
  have hd : ∀ r, o.rules.find? t = some r → digestOf o.sources r = digestOf o'.sources r := by
    intro r h
    refine digestOf_congr hroot fun hk => ?_
    rw [RuleStore.target_of_find? h]
    exact hs (RuleStore.ruleFor_of_find? h ▸ hk)
  unfold Trusted
  rw [← hr, ← hl]
  refine exists_congr fun r => and_congr_right fun h => ?_
  rw [hd r h]

def RuleStore.SourceOf (s : RuleStore) (goal t : String) : Prop :=
  s.Reaches goal t ∧ (s.ruleFor t).kind = .filename

def RuleStore.JobOf (s : RuleStore) (goal : String) (j : Job) : Prop :=
  s.Reaches goal j.target ∧ (s.ruleFor j.target).recipe = some j.recipe

namespace Surroundings

variable {W : Type} {s : Surroundings W} {root : Path} {rules : RuleStore} {c : Cache} {w : W}
  {t : String} {r : Rule} {d : Digest}

/-- Saving changes one entry of the digest store, and no file. -/
structure Separate (s : Surroundings W) : Prop where
  files_save : ∀ w id t d, s.files (s.save w id t d).2 = s.files w
  load_save : ∀ w id t d id' t', (id', t') ≠ (id, t) →
    s.load (s.save w id t d).2 id' t' = s.load w id' t'

/-- The digest store is a map: what was saved is what is loaded. -/
structure Lawful (s : Surroundings W) : Prop extends Separate s where
  load_saved : ∀ w id t d, s.load (s.save w id t d).2 id t = .ok (some d)

lemma Separate.sources_save (h : s.Separate) (root : Path) (w : W) (id t d : String) :
    s.sources root (s.save w id t d).2 = s.sources root w := by
  rw [sources, h.files_save, sources]

lemma record_cache (s : Surroundings W) (root : Path) (rules : RuleStore) (c : Cache) (w : W)
    (t : String) : (s.record root rules c w t).cache = c.noteMade t := by
  unfold record
  dsimp only
  split
  · rfl
  · split
    · rfl
    · split <;> rfl

lemma record_of_error {e : DigestError} (hr : rules.find? t = some r)
    (he : Outlook.digestOf (s.sources root w) r = .error e) :
    s.record root rules c w t = ⟨.error e, c.noteMade t, w, []⟩ := by
  simp only [record, hr, he]

lemma record_of_digest (hr : rules.find? t = some r)
    (hd : Outlook.digestOf (s.sources root w) r = .ok d) :
    (s.record root rules c w t).result = .ok (some d) ∧
      (s.record root rules c w t).cache = c.noteMade t ∧
      (s.record root rules c w t).world = (s.save w c.buildId t d.hex).2 := by
  simp only [record, hr, hd, Cache.noteMade]
  split <;> next h => simp [h]

lemma digestOf_of_record_error {e : DigestError} (hr : rules.find? t = some r)
    (he : (s.record root rules c w t).result = .error e) :
    Outlook.digestOf (s.sources root w) r = .error e := by
  cases hd : Outlook.digestOf (s.sources root w) r with
  | error e' =>
    rw [record_of_error hr hd] at he
    cases he
    rfl
  | ok d =>
    rw [(record_of_digest hr hd).1] at he
    cases he

end Surroundings

lemma Cache.mem_noteMade (c : Cache) (t u : String) :
    u ∈ (c.noteMade t).made ↔ u = t ∨ u ∈ c.made := by
  unfold noteMade
  split
  · next h => exact ⟨.inr, fun hu => hu.elim (fun he => he ▸ h) id⟩
  · simp [or_comm]

end Freshen
