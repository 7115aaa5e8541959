import Freshen.Rehearsal
import Mathlib.Tactic

/-! Dry runs. No recipe is handed out, nothing that recipes could change is changed, and neither is
the disk, as long as a database that is opened to be read is left as it is. -/

namespace Freshen

namespace Database

open Connection

variable {disk disk' : Disk} {p : Path} {c : Connection} {n m : Name} {o v : String}

def LeavesDisk (disk : Disk) (p : Path) : Prop :=
  ∀ c disk', connect disk .readOnly p = .ok (c, disk') → disk' = disk

lemma openAt_readOnly {l : Location} (hn : n.access = .readOnly)
    (h : openAt disk p n l = .ok (c, disk')) : disk' = disk := by
  rw [openAt, if_pos hn] at h
  split at h
  · cases h
  · cases h
    rfl
  · cases h

lemma Name.parse_path {access : Access} {text : String}
    (h : Name.scheme.toList.isPrefixOf text.toList = false)
    (hn : Name.parse access text = .ok n) : n = ⟨text, access, false⟩ := by
  rw [Name.parse, h] at hn
  split at hn
  · cases hn
  · rw [if_neg Bool.false_ne_true] at hn
    exact (Except.ok.inj hn).symm

lemma leavesDisk_of_access
    (h : ∀ n, Name.parse .readOnly p.text = .ok n → n.access = .readOnly) :
    LeavesDisk disk p := by
  intro c disk' hc
  rw [connect] at hc
  cases hn : Name.parse .readOnly p.text with
  | error e => simp [hn, bind, Except.bind] at hc
  | ok n =>
    simp only [hn, bind, Except.bind] at hc
    split at hc
    · cases hc
      rfl
    · split at hc
      · cases hc
      · exact openAt_readOnly (h n hn) hc

lemma leavesDisk_of_path (h : Name.scheme.toList.isPrefixOf p.text.toList = false) :
    LeavesDisk disk p :=
  leavesDisk_of_access fun _ hn => (Name.parse_path h hn).symm ▸ rfl

end Database

namespace DigestStore

variable {disk : Disk} {p : Path}

lemma openFlatFile_disk (disk : Disk) (p : Path) : (openFlatFile disk p).disk = disk := by
  rw [openFlatFile]
  split
  · rfl
  split
  · rfl
  · rfl
  split <;> rfl

lemma openToRead_disk (h : Database.LeavesDisk disk p) : (openToRead disk p).disk = disk := by
  rw [openToRead]
  cases hc : Database.Connection.connect disk .readOnly p with
  | error e => rfl
  | ok opened => exact h opened.1 opened.2 hc

lemma openReadOnlyAt_disk {b : Backend} {location : Option Path}
    (h : b = .database → ∀ p, location = some p → Database.LeavesDisk disk p) :
    (openReadOnlyAt disk b location).disk = disk := by
  unfold openReadOnlyAt
  split
  · split
    · exact openToRead_disk (h rfl _ rfl)
    · rfl
  · split
    · exact openFlatFile_disk disk _
    · rfl
  · rfl

end DigestStore

namespace Project

variable {X : Type} {site : Site X} {disk : Disk} {rest : X} {description : Path}
  {d : Description} {request : Request}

def cacheLocation (disk : Disk) (description : Path) (d : Description) : Option Path :=
  d.settings.effectiveBackend.location (projectRoot disk.current.path description)
    d.settings.cachePath

lemma job?_noticed {ns : List Notice} {e : Event} (he : e ∈ ns.map Event.noticed) :
    e.job? = none := by
  obtain ⟨n, -, rfl⟩ := List.mem_map.mp he
  rfl

lemma job?_foresee {plan : Plan (World X)} {cache : Cache} {w : World X} {goal : String}
    {order : List Rule} {e : Event} (he : e ∈ (foresee plan cache w goal order).events) :
    e.job? = none := by
  rcases List.mem_append.mp he with he | he
  · exact job?_noticed he
  · obtain ⟨text, -, rfl⟩ := List.mem_map.mp he
    rfl

/-- A dry run, whatever comes of it, changes nothing. It hands out no recipe, does the same whatever
would be done with one, and has nothing to report. -/
theorem dry_run_changes_nothing (hdry : request.dryRun = true)
    (hread : d.settings.effectiveBackend = .database → ∀ p,
      cacheLocation disk description d = some p → Database.LeavesDisk disk p) :
    (build site disk rest description d request).disk = disk ∧
    (build site disk rest description d request).rest = rest ∧
    (∀ e ∈ (build site disk rest description d request).events, e.job? = none) ∧
    (∀ report, (build site disk rest description d request).result = .ok report → report = {}) ∧
    ∀ execute, build { site with execute } disk rest description d request =
      build site disk rest description d request := by
  have hdisk := DigestStore.openReadOnlyAt_disk hread
  rw [cacheLocation] at hdisk
  unfold build
  simp only [hdry, if_true]
  split
  · exact ⟨rfl, rfl, by simp, by simp, fun _ => rfl⟩
  split
  · exact ⟨rfl, rfl, by simp [Event.job?], by simp, fun _ => rfl⟩
  split
  · exact ⟨hdisk, rfl, fun e he => job?_noticed he, by simp, fun _ => rfl⟩
  · refine ⟨hdisk, rfl, fun e he => ?_, ?_, fun _ => rfl⟩
    · rcases List.mem_append.mp he with he | he
      · exact job?_noticed he
      · exact job?_foresee he
    · rintro report hr
      exact (Except.ok.inj hr).symm

def stocked : Disk :=
  ((Disk.bare ["work"]).newBody (.database
    { meta_ := some [("schema_version", "1")]
      cache := some [(("/work/Hashmakefile.toml", "app"), "00")] }) 0o666).2.put
    ["work", "digests.db"] (.file 0)

def alwaysApp : Description where
  settings := { cachePath := some "digests.db" }
  vars := []
  rules := [{ target := "app", recipe := some "cc -o app main.c", always := true }]

def dryRequest : Request := { dryRun := true }

lemma stocked_result :
    (build Stage.site stocked {} ⟨"Hashmakefile.toml"⟩ alwaysApp dryRequest).result = .ok {} := by
  have hresolved : ∀ exists_, ((alwaysApp.declareInto {}).resolve "app" exists_).outcome =
      .ok [⟨"app", [], some "cc -o app main.c", .explicit, true⟩] := by
    intro exists_
    have hknown : ((alwaysApp.declareInto {}).find? "app").isNone = false := by decide
    rw [RuleStore.resolve, hknown, Bool.false_and, if_neg Bool.false_ne_true]
    cbv
  have hopened : (DigestStore.openReadOnlyAt stocked .database
      (cacheLocation stocked ⟨"Hashmakefile.toml"⟩ alwaysApp)).store.isOk = true := by
    decide +kernel
  unfold build
  simp only [dryRequest, if_true]
  split
  · next hgoal => cases hgoal
  next goal hgoal =>
  obtain rfl : "app" = goal := Option.some.inj hgoal
  split
  · next e he => exact absurd ((hresolved _).symm.trans he) (by simp)
  split
  · next e he =>
    have he' : (DigestStore.openReadOnlyAt stocked .database
        (cacheLocation stocked ⟨"Hashmakefile.toml"⟩ alwaysApp)).store = .error e := he
    rw [he'] at hopened
    cases hopened
  · rfl

theorem dry_run_changes_nothing_stocked :
    dryRequest.dryRun = true ∧
    cacheLocation stocked ⟨"Hashmakefile.toml"⟩ alwaysApp = some ⟨"/work/digests.db"⟩ ∧
    stocked.exists_ ⟨"/work/digests.db"⟩ = true ∧
    (build Stage.site stocked {} ⟨"Hashmakefile.toml"⟩ alwaysApp dryRequest).result = .ok {} ∧
    (build Stage.site stocked {} ⟨"Hashmakefile.toml"⟩ alwaysApp dryRequest).disk = stocked := by
  have hplace : cacheLocation stocked ⟨"Hashmakefile.toml"⟩ alwaysApp =
      some ⟨"/work/digests.db"⟩ := by decide +kernel
  refine ⟨rfl, hplace, by decide +kernel, stocked_result, ?_⟩
  refine (dry_run_changes_nothing rfl fun _ p hp => ?_).1
  obtain rfl := Option.some.inj (hplace.symm.trans hp)
  exact Database.leavesDisk_of_path (by decide)

end Project
end Freshen
