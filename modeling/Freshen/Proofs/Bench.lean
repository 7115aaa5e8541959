import Freshen.Database
import Freshen.Proofs.Invocation
import Mathlib

/-! A workplace in memory: files, digests that are never refused, and recipes that succeed or fail
as they are told and touch no file. -/

namespace Freshen

namespace FileSet

variable {s : FileSet} {p : Path}

lemma openRead_of_some {bytes : ByteArray} (h : s.get? p = some bytes) :
    s.files.openRead p = .ok (.ok bytes) := by
  simp only [files, h]

lemma openRead_of_none (h : s.get? p = none) : s.files.openRead p = .error (.absent p) := by
  simp only [files, h]

end FileSet

structure Bench where
  files : FileSet := {}
  entries : Entries := []

namespace Bench

def play (outcome : Job → Outcome) (w : Bench) (j : Job) : Response × Bench :=
  (⟨.ok (outcome j), []⟩, w)

abbrev succeed : Job → Outcome := fun _ => .success

abbrev fail : Job → Outcome := fun _ => .failed 1

def workplace : Workplace Bench where
  surroundings.files w := w.files.files
  surroundings.load w id t := .ok (Keyed.get? w.entries (id, t))
  surroundings.save w id t d := (.ok (), { w with entries := Keyed.set (id, t) d w.entries })
  surroundings.execute := play succeed
  root := ⟨""⟩
  buildId := "Hashmakefile.toml"

lemma lawful : workplace.surroundings.Lawful where
  files_save _ _ _ _ := rfl
  load_save w id t d id' t' hne := by
    change Except.ok (Keyed.get? (Keyed.set (id, t) d w.entries) (id', t')) = _
    rw [Keyed.get?_set, if_neg (Ne.symm hne)]
    rfl
  load_saved w id t d := by
    change Except.ok (Keyed.get? (Keyed.set (id, t) d w.entries) (id, t)) = _
    rw [Keyed.get?_set, if_pos rfl]

section

variable {i : Invocation Bench} {outcome : Job → Outcome}

lemma spares (h : i.execute = play outcome) : workplace.Spares i where
  load w j _ := by
    change workplace.surroundings.load (i.execute w j).2 = _
    rw [h]
    rfl
  sight w j _ t _ := by
    change (workplace.sources (i.execute w j).2).sight t = _
    rw [h]
    rfl

lemma digest_of_get? {w : Bench} {t : String} {bytes : ByteArray}
    (h : w.files.get? ((workplace.sources w).pathOf t) = some bytes) :
    (workplace.sources w).files.digest ((workplace.sources w).pathOf t) =
      .ok (fingerprintReads (reads bytes)) := by
  have ho : (workplace.sources w).files.openRead ((workplace.sources w).pathOf t) =
      .ok (.ok bytes) := FileSet.openRead_of_some h
  rw [Files.digest, ho]

lemma readable {w : Bench} {t : String} (h : (workplace.sources w).fileExists t = true) :
    (workplace.sources w).Readable t := by
  obtain ⟨bytes, hb⟩ := Option.isSome_iff_exists.mp h
  exact ⟨_, digest_of_get? hb⟩

end

def compile (program : String) : String := "cc -o " ++ program ++ " main.c"

def programs : RuleStore :=
  (({} : RuleStore).declare "app" ["main.c"] (some (compile "app"))).declare "test"
    ["main.c"] (some (compile "test"))

def source (text : String) (entries : Entries) : Bench :=
  ⟨⟨[(⟨"main.c"⟩, text.toUTF8)]⟩, entries⟩

def invoke (goal : String) (options : Options) (outcome : Job → Outcome) (w : Bench) :
    Invocation Bench := ⟨programs, goal, options, play outcome, w⟩

section

variable {goal t text : String} {options : Options} {outcome : Job → Outcome} {w : Bench}
  {entries : Entries}

lemma resolution_eq (hg : goal = "app" ∨ goal = "test") :
    (workplace.resolution (invoke goal options outcome w)).outcome = .ok
      [.file "main.c", ⟨goal, ["main.c"], some (compile goal), .explicit, false⟩] := by
  rcases hg with rfl | rfl
  · cbv
  · cbv

lemma accepts (hg : goal = "app" ∨ goal = "test") :
    workplace.Accepts (invoke goal options outcome w) := ⟨_, resolution_eq hg⟩

lemma order_eq (hg : goal = "app" ∨ goal = "test") :
    workplace.order (invoke goal options outcome w) =
      [.file "main.c", ⟨goal, ["main.c"], some (compile goal), .explicit, false⟩] := by
  rw [Workplace.order, resolution_eq hg]
  rfl

lemma before_explicit {done rest : List Rule} {rule : Rule} (hg : goal = "app" ∨ goal = "test")
    (he : workplace.order (invoke goal options outcome w) = done ++ rule :: rest)
    (hk : rule.kind = .explicit) : done = [.file "main.c"] := by
  rw [order_eq hg] at he
  cases done with
  | nil =>
    obtain ⟨rfl, _⟩ := List.cons.inj he
    cases hk
  | cons first done =>
    obtain ⟨rfl, hrest⟩ := List.cons.inj he
    cases done with
    | nil => rfl
    | cons second done =>
      have hlength := congrArg List.length hrest
      simp at hlength

lemma reaches_iff (hg : goal = "app" ∨ goal = "test") :
    programs.Reaches goal t ↔ t = "main.c" ∨ t = goal := by
  have ha : workplace.Accepts (invoke goal {} succeed {}) := accepts hg
  have hm := Workplace.mem_order (t := t) ha
  rw [order_eq hg] at hm
  change _ ↔ programs.Reaches goal t at hm
  rw [← hm]
  simp [targets, Rule.file]

lemma eq_of_reaches_main (ht : programs.Reaches "main.c" t) : t = "main.c" := by
  cases ht with
  | refl => rfl
  | step hs _ =>
    have hdeps : (programs.ruleFor "main.c").deps = [] := rfl
    rw [RuleStore.Step, hdeps] at hs
    cases hs

lemma sourceOf (hg : goal = "app" ∨ goal = "test") (ht : programs.SourceOf goal t) :
    t = "main.c" := by
  rcases (reaches_iff hg).mp ht.1 with rfl | rfl
  · rfl
  · have hk := ht.2
    rcases hg with rfl | rfl
    · cases hk
    · cases hk

lemma get?_main (bytes : ByteArray) (rest : List (Path × ByteArray)) (w : Bench) :
    FileSet.get? ⟨(⟨"main.c"⟩, bytes) :: rest⟩ ((workplace.sources w).pathOf "main.c") =
      some bytes := by
  have hp : (workplace.sources w).pathOf "main.c" = ⟨"main.c"⟩ := by
    change (Path.mk "").join "main.c" = _
    decide
  have hplain : (Path.mk "main.c").plain = ⟨"main.c"⟩ := by decide
  rw [hp, FileSet.get?, hplain]
  exact (Keyed.get?_cons (Path.mk "main.c", bytes) rest _).trans (if_pos rfl)

lemma get?_source (w : Bench) : (source text entries).files.get?
    ((workplace.sources w).pathOf "main.c") = some text.toUTF8 := get?_main text.toUTF8 [] w

lemma source_there (text : String) (entries : Entries) :
    (workplace.sources (source text entries)).fileExists "main.c" = true :=
  congrArg Option.isSome (get?_source (source text entries))

lemma sources_there (hg : goal = "app" ∨ goal = "test") (ht : programs.SourceOf goal t) :
    (workplace.sources (source text entries)).fileExists t = true ∧
      (workplace.sources (source text entries)).Readable t := by
  obtain rfl := sourceOf hg ht
  exact ⟨source_there text entries, readable (source_there text entries)⟩

lemma completed (hg : goal = "app" ∨ goal = "test") :
    (workplace.plan (invoke goal options succeed (source text entries))).Progress
      workplace.buildId (source text entries) goal
      (workplace.forecast (invoke goal options succeed (source text entries))).standings
      (workplace.run (invoke goal options succeed (source text entries))) :=
  Workplace.completed_of_sources (accepts hg) lawful.toSeparate (spares rfl)
    (fun _ => sources_there hg)
    (Workplace.recipesSucceed_of_success (accepts hg) lawful.toSeparate (spares rfl)
      fun _ _ => rfl)

lemma compile_fails (hm : Keyed.get? entries (workplace.buildId, "main.c") = none) :
    (workplace.run (invoke "app" {} fail (source text entries))).failure =
      some (.recipeFailed "app" 1) := by
  have h : workplace.Accepts (invoke "app" {} fail (source text entries)) := accepts (.inl rfl)
  have hmain := (reaches_iff (.inl rfl)).mpr (.inl rfl)
  have hdue : (workplace.plan (invoke "app" {} fail (source text entries))).Due
      workplace.buildId (source text entries) "app" := by
    refine (Workplace.due_iff rfl).mpr ⟨"main.c", hmain, ?_⟩
    rw [Workplace.trusted_iff h hmain]
    rintro ⟨_, d, _, hs⟩
    have hs' := (congrArg Except.ok hm).symm.trans hs
    cases hs'
  obtain ⟨u, hu, hk, hf⟩ := Workplace.fails_of_failing h lawful.toSeparate (spares rfl)
    (fun _ => sources_there (.inl rfl)) (fun _ _ => rfl) (.refl _) rfl rfl hdue
  rcases (reaches_iff (.inl rfl)).mp hu with rfl | rfl
  · cases hk
  · exact hf

end

end Bench
end Freshen
