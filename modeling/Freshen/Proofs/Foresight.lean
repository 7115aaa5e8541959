import Freshen.Proofs.Bench

/-! A forecast tells what the run will do: it asks all its questions beforehand, the run asks them
between its own recordings, and the answers agree. -/

namespace Freshen

open Bench

variable {W : Type} {b : Workplace W} {i : Invocation W}

lemma append_cons_unique {α : Type*} {q : α → Prop} {l₁ l₂ l₁' l₂' : List α} {a a' : α}
    (h : l₁ ++ a :: l₂ = l₁' ++ a' :: l₂') (ha : q a) (ha' : q a') (h₁ : ∀ c ∈ l₁, ¬ q c)
    (h₁' : ∀ c ∈ l₁', ¬ q c) : l₁ = l₁' ∧ a = a' := by
  induction l₁ generalizing l₁' with
  | nil =>
    cases l₁' with
    | nil => exact ⟨rfl, (List.cons.inj h).1⟩
    | cons c l₁' => exact (h₁' c (by simp) ((List.cons.inj h).1 ▸ ha)).elim
  | cons c l₁ ih =>
    cases l₁' with
    | nil => exact (h₁ c (by simp) ((List.cons.inj h).1 ▸ ha')).elim
    | cons c' l₁' =>
      obtain ⟨rfl, ht⟩ := List.cons.inj h
      obtain ⟨rfl, rfl⟩ := ih ht (fun d hd => h₁ d (by simp [hd])) fun d hd => h₁' d (by simp [hd])
      exact ⟨rfl, rfl⟩

namespace Workplace

/-- The forecast asks all its questions on one state, the run asks them between its own recordings:
yet the run does what was foretold, up to the first missing source file. Lookups may fail. -/
theorem run_as_forecast (h : b.Accepts i) (hsep : b.surroundings.Separate) (hspare : b.Spares i)
    (hread : ∀ t, i.rules.SourceOf i.goal t → (b.sources i.world).fileExists t = true →
      (b.sources i.world).Readable t)
    (hrec : (b.run i).RecipesSucceed) :
    (b.forecast i).standings.map (·.1) = b.order i ∧
    ((∀ e ∈ (b.forecast i).standings, e.2 ≠ .missing) →
      (b.run i).result = .ok (.foretold (b.forecast i).standings) ∧
        (b.run i).jobs.map (·.target) = (Report.foretold (b.forecast i).standings).executed) ∧
    ∀ L e L', (b.forecast i).standings = L ++ e :: L' → e.2 = .missing →
      (∀ q ∈ L, q.2 ≠ .missing) →
      (b.run i).result = .error (.missingSource e.1.target) ∧
        (b.run i).report = .foretold L ∧
        (b.run i).jobs.map (·.target) = (Report.foretold L).executed ∧
        ∀ t, t ∈ (b.run i).settled ↔ ∃ q ∈ L, q.1.target = t := by
  refine ⟨(foreseen h).rules_eq, ?_⟩
  rcases course_of_readable h hsep hspare hread hrec with hp | ⟨done, e, rest, r, hL, hm, hp, hh⟩
  · refine ⟨fun _ => ⟨?_, hp.report ▸ hp.jobs⟩, fun L e L' hL hm _ => ?_⟩
    · rw [Run.result, hp.going, hp.report]
    · exact (hp.present e (by simp [hL]) hm).elim
  · refine ⟨fun hn => (hn e (by simp [hL]) hm).elim, fun L e' L' hL' hm' hn => ?_⟩
    obtain ⟨rfl, rfl⟩ := append_cons_unique (q := fun q => q.2 = .missing)
      (hL.symm.trans hL') hm hm' hp.present hn
    refine ⟨by rw [Run.result, hh.failure], hh.report.trans hp.report, ?_, fun t => ?_⟩
    · rw [hh.jobs rfl, hp.jobs, hp.report]
    · rw [hh.settled, hp.settled]
      simp [Plan.handled]

end Workplace

def Bench.halfway : Bench :=
  source "int" [(("Hashmakefile.toml", "main.c"), (fingerprintReads (reads "int".toUTF8)).hex)]

namespace Workplace

lemma forecast_halfway :
    (workplace.forecast (invoke "test" {} succeed halfway)).standings =
      [(.file "main.c", .upToDate),
        (⟨"test", ["main.c"], some (compile "test"), .explicit, false⟩, .stale)] := by
  let i := invoke "test" {} succeed halfway
  have ha : workplace.Accepts i := accepts (.inr rfl)
  have hmain : programs.Reaches "test" "main.c" := (reaches_iff (.inr rfl)).mpr (.inl rfl)
  have hfresh : ¬ (workplace.plan i).Due workplace.buildId i.world "main.c" := by
    rw [due_iff rfl]
    rintro ⟨x, hx, hn⟩
    obtain rfl := eq_of_reaches_main hx
    have hd : workplace.digest i.rules i.world "main.c" =
        .ok (fingerprintReads (reads "int".toUTF8)) := digest_of_get? (get?_source i.world)
    exact hn ((trusted_iff ha hmain).mpr ⟨rfl, _, hd, rfl⟩)
  have hstale : (workplace.plan i).Due workplace.buildId i.world "test" := by
    refine (due_iff rfl).mpr ⟨"test", .refl _, fun htrust => ?_⟩
    obtain ⟨_, d, _, hs⟩ := (trusted_iff ha (.refl _)).mp htrust
    cases hs
  have hf := foreseen ha
  obtain ⟨⟨r, st⟩, L, hL, rfl, hrest⟩ :=
    List.map_eq_cons_iff.mp (hf.rules_eq.trans (order_eq (.inr rfl)))
  obtain ⟨⟨r', st'⟩, L', rfl, rfl, hnil⟩ := List.map_eq_cons_iff.mp hrest
  obtain rfl := List.map_eq_nil_iff.mp hnil
  have hst : (workplace.plan i).Stands workplace.buildId i.world _ st :=
    hf.stands (.file "main.c", st) (by rw [hL]; exact List.mem_cons_self ..)
  have hst' : (workplace.plan i).Stands workplace.buildId i.world _ st' :=
    hf.stands (⟨"test", _, _, _, _⟩, st') (by rw [hL]; exact .tail _ (.head _))
  obtain ⟨rfl, _⟩ := (hst.unforced (fun _ => source_there "int" _) rfl).resolve_left
    fun hs => hfresh (.inr hs.2)
  obtain ⟨rfl, _⟩ := (hst'.unforced (fun hk => nomatch hk) rfl).resolve_right
    fun hs => hs.2 (hstale.resolve_left nofun)
  exact hL

theorem run_as_forecast_halfway :
    (workplace.forecast (invoke "test" {} succeed halfway)).standings.map (·.2) =
      [.upToDate, .stale] ∧
    (workplace.run (invoke "test" {} succeed halfway)).result =
      .ok { executed := ["test"], skipped := ["main.c"] } := by
  have ha : workplace.Accepts (invoke "test" {} succeed halfway) := accepts (.inr rfl)
  have h := run_as_forecast ha Bench.lawful.toSeparate (spares rfl) (fun _ _ => readable)
    (recipesSucceed_of_success ha Bench.lawful.toSeparate (spares rfl) fun _ _ => rfl)
  rw [forecast_halfway] at h
  exact ⟨congrArg (List.map (·.2)) forecast_halfway, (h.2.1 (by decide)).1⟩

end Workplace
end Freshen
