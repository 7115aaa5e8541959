import Freshen.Proofs.Retry

/-! Many invocations, each with a goal of its own, on one digest store. A source file has one entry
for all that depend on it, so whichever run sees a change first is the only one to see it. -/

namespace Freshen

open Bench

variable {W : Type} {b : Workplace W} {rules : RuleStore} {i j k : Invocation W}
  {h h₁ h₂ : List (Invocation W)} {t x : String}

namespace Workplace

def contents (b : Workplace W) (i : Invocation W) (t : String) : Option ByteArray :=
  match (b.sources i.world).files.openRead ((b.sources i.world).pathOf t) with
  | .ok (.ok bytes) => some bytes
  | _ => none

def Handles (b : Workplace W) (i : Invocation W) (t : String) : Prop := t ∈ targets (b.order i)

instance : Decidable (b.Handles i t) := inferInstanceAs (Decidable (t ∈ targets (b.order i)))

def storedAfter (b : Workplace W) : List (Invocation W) → String → Except StoreError (Option String)
  | [], _ => .ok none
  | i :: _, t => b.stored (b.run i).world t

structure Completes (b : Workplace W) (rules : RuleStore) (i : Invocation W) : Prop where
  rules_eq : i.rules = rules
  accepts : b.Accepts i
  spares : b.Spares i
  going : (b.run i).failure = none

/-- Invocations in succession, the latest first. Each comes to its end, and each starts with the
digests that the one before has left. Files may change in between. -/
inductive Chronicle (b : Workplace W) (rules : RuleStore) : List (Invocation W) → Prop
  | nil : Chronicle b rules []
  | cons {i : Invocation W} {h : List (Invocation W)} : Chronicle b rules h → b.Completes rules i →
      (∀ t, b.stored i.world t = b.storedAfter h t) → Chronicle b rules (i :: h)

/-- No two contents that a file has had share a digest. -/
def CollisionFree (b : Workplace W) (h : List (Invocation W)) : Prop :=
  ∀ j ∈ h, ∀ k ∈ h, ∀ x c c', b.contents j x = some c → b.contents k x = some c' →
    fingerprintReads (reads c) = fingerprintReads (reads c') → c = c'

lemma CollisionFree.mono (hfree : b.CollisionFree h) (hsub : ∀ j ∈ h₁, j ∈ h) :
    b.CollisionFree h₁ := fun j hj k hk => hfree j (hsub j hj) k (hsub k hk)

lemma contents_of_digest {d : Digest} (hk : (rules.ruleFor x).kind = .filename)
    (hd : b.digest rules i.world x = .ok d) :
    ∃ c, b.contents i x = some c ∧ d = fingerprintReads (reads c) := by
  rw [digest, Outlook.digestOf, hk, RuleStore.ruleFor_target] at hd
  simp only [Files.digest] at hd
  unfold contents
  split at hd
  · cases hd
  · cases hd
  · next bytes ho =>
    rw [ho]
    exact ⟨bytes, rfl, (Except.ok.inj hd).symm⟩

lemma CollisionFree.contents_eq {d : Digest} (hfree : b.CollisionFree h) (hj : j ∈ h) (hk : k ∈ h)
    (hx : (rules.ruleFor x).kind = .filename) (hdj : b.digest rules j.world x = .ok d)
    (hdk : b.digest rules k.world x = .ok d) : b.contents j x = b.contents k x := by
  obtain ⟨c, hc, hf⟩ := contents_of_digest hx hdj
  obtain ⟨c', hc', hf'⟩ := contents_of_digest hx hdk
  rw [hc, hc', hfree j hj k hk x c c' hc hc' (hf.symm.trans hf')]

namespace Completes

variable (hc : b.Completes rules i)
include hc

lemma progress (hl : b.surroundings.Lawful) :
    (b.plan i).Progress b.buildId i.world i.goal (b.forecast i).standings (b.run i) :=
  completed hc.accepts hl.toSeparate hc.spares hc.going

lemma handles_iff : b.Handles i t ↔ t ∈ Plan.handled (b.forecast i).standings := by
  rw [Handles, mem_order hc.accepts, handled_forecast hc.accepts]

lemma handles_below (ht : b.Handles i t) (hx : rules.Reaches t x) : b.Handles i x := by
  rw [Handles, mem_order hc.accepts, hc.rules_eq] at ht ⊢
  exact ht.trans hx

lemma stored_of_not_due (ht : b.Handles i t) (hn : ¬ (b.plan i).Due b.buildId i.world t)
    (hx : rules.Reaches t x) : ∃ d, b.digest rules i.world x = .ok d ∧
      b.stored i.world x = .ok (some d.hex) := by
  have htrust : ((b.plan i).start b.buildId i.world).Trusted x := by
    by_contra hnot
    refine hn (.inr ⟨List.not_mem_nil, x, ?_, .inr hnot⟩)
    exact plan_reaches.mpr (hc.rules_eq ▸ hx)
  rw [Handles, mem_order hc.accepts] at ht
  have := ((trusted_iff hc.accepts (ht.trans (hc.rules_eq ▸ hx))).mp htrust).2
  rwa [hc.rules_eq] at this

variable (hl : b.surroundings.Lawful)
include hl

lemma executed_iff (hk : (rules.ruleFor t).kind = .explicit)
    (hr : (rules.ruleFor t).recipe.isSome = true) :
    t ∈ (b.run i).report.executed ↔ b.Handles i t ∧ (b.plan i).Due b.buildId i.world t := by
  rw [mem_executed hc.accepts (hc.progress hl), Handles, mem_order hc.accepts, hc.rules_eq]
  exact and_iff_left ⟨hk, hr⟩

lemma skipped_iff :
    t ∈ (b.run i).report.skipped ↔ b.Handles i t ∧ ¬ (b.plan i).Due b.buildId i.world t := by
  rw [(hc.progress hl).report_skipped, hc.handles_iff]

lemma stored_run (ht : b.Handles i t) : ∃ d, b.digest rules i.world t = .ok d ∧
    b.stored (b.run i).world t = .ok (some d.hex) := by
  have hs := stored_of_handled (hc.progress hl) hl (hc.handles_iff.mp ht)
  rwa [hc.rules_eq] at hs

lemma stored_run_of_not_handled (ht : ¬ b.Handles i t) :
    b.stored (b.run i).world t = b.stored i.world t :=
  stored_of_not_handled (hc.progress hl) (hc.handles_iff.not.mp ht)

end Completes

namespace Chronicle

lemma storedAfter_eq (hl : b.surroundings.Lawful) (hc : b.Chronicle rules h) (t : String) :
    (h.find? fun k => b.Handles k t) = none ∧ b.storedAfter h t = .ok none ∨
      ∃ k, (h.find? fun k => b.Handles k t) = some k ∧
        ∃ d, b.digest rules k.world t = .ok d ∧ b.storedAfter h t = .ok (some d.hex) := by
  induction hc with
  | nil => exact .inl ⟨rfl, rfl⟩
  | @cons i h hc hi hs ih =>
    by_cases ht : b.Handles i t
    · exact .inr ⟨i, List.find?_cons_of_pos (by simpa using ht), hi.stored_run hl ht⟩
    · rw [List.find?_cons_of_neg (by simpa using ht), storedAfter,
        hi.stored_run_of_not_handled hl ht, hs]
      exact ih

lemma last_of_stored {s : String} (hl : b.surroundings.Lawful) (hc : b.Chronicle rules h)
    (hs : b.storedAfter h t = .ok (some s)) :
    ∃ k, h.find? (fun k => b.Handles k t) = some k ∧
      ∃ d, b.digest rules k.world t = .ok d ∧ d.hex = s := by
  rcases hc.storedAfter_eq hl t with ⟨_, hn⟩ | ⟨k, hk, d, hd, he⟩
  · rw [hn] at hs
    cases hs
  · exact ⟨k, hk, d, hd, Option.some.inj (Except.ok.inj (he.symm.trans hs))⟩

lemma last_executed (hl : b.surroundings.Lawful) (hc : b.Chronicle rules h)
    (hk : (rules.ruleFor t).kind = .explicit) (hr : (rules.ruleFor t).recipe.isSome = true)
    (ht : ∃ k ∈ h, b.Handles k t) : ∃ h₁ j h₂, h = h₁ ++ j :: h₂ ∧
      t ∈ (b.run j).report.executed ∧ ∀ k ∈ h₁, t ∉ (b.run k).report.executed := by
  induction hc with
  | nil =>
    obtain ⟨_, hk, _⟩ := ht
    cases hk
  | @cons i h hc hi hs ih =>
    by_cases he : t ∈ (b.run i).report.executed
    · exact ⟨[], i, h, rfl, he, by simp⟩
    · have ht' : ∃ k ∈ h, b.Handles k t := by
        by_cases hti : b.Handles i t
        · have hn := fun hd => he ((hi.executed_iff hl hk hr).mpr ⟨hti, hd⟩)
          obtain ⟨d, _, hd⟩ := hi.stored_of_not_due hti hn (.refl t)
          obtain ⟨k, hk, _⟩ := hc.last_of_stored hl ((hs t).symm.trans hd)
          exact ⟨k, List.mem_of_find?_eq_some hk, by simpa using List.find?_some hk⟩
        · obtain ⟨k, hk, htk⟩ := ht
          rcases List.mem_cons.mp hk with rfl | hk
          · exact (hti htk).elim
          · exact ⟨k, hk, htk⟩
      obtain ⟨h₁, j, h₂, rfl, hj, hnot⟩ := ih ht'
      refine ⟨i :: h₁, j, h₂, rfl, hj, fun k hk => ?_⟩
      rcases List.mem_cons.mp hk with rfl | hk
      · exact he
      · exact hnot k hk

end Chronicle

def lastApart (b : Workplace W) (h : List (Invocation W)) (x t : String) : Option (Invocation W) :=
  h.find? fun k => b.Handles k x ∧ ¬ b.Handles k t

lemma last_seen_iff (hl : b.surroundings.Lawful) (hc : b.Chronicle rules (h₁ ++ j :: h₂))
    (hfree : b.CollisionFree (h₁ ++ j :: h₂)) (hk : (rules.ruleFor t).kind = .explicit)
    (hr : (rules.ruleFor t).recipe.isSome = true) (hj : t ∈ (b.run j).report.executed)
    (hnot : ∀ k ∈ h₁, t ∉ (b.run k).report.executed) (hx : rules.Reaches t x)
    (hkx : (rules.ruleFor x).kind = .filename) :
    ∃ k, (h₁ ++ j :: h₂).find? (fun k => b.Handles k x) = some k ∧
      (b.contents k x = b.contents j x ↔
        ∀ k' ∈ b.lastApart h₁ x t, b.contents k' x = b.contents j x) := by
  -- By the runs since the target was made. One that deals with the target as well skips it, and so
  -- finds the file as the run before has left it.
  induction h₁ with
  | nil =>
    cases hc with
    | cons _ hij _ =>
      have hjx := hij.handles_below ((hij.executed_iff hl hk hr).mp hj).1 hx
      exact ⟨j, List.find?_cons_of_pos (by simpa using hjx), by simp [lastApart]⟩
  | cons i h₁ ih =>
    cases hc with
    | cons hc hi hs =>
      obtain ⟨k, hk', hiff⟩ := ih hc (hfree.mono fun k hk => List.mem_cons_of_mem _ hk)
        fun k hk => hnot k (List.mem_cons_of_mem _ hk)
      rw [List.cons_append, lastApart]
      by_cases hix : b.Handles i x
      · rw [List.find?_cons_of_pos (by simpa using hix)]
        refine ⟨i, rfl, ?_⟩
        by_cases hit : b.Handles i t
        · rw [List.find?_cons_of_neg (by simp [hit])]
          have hn := fun hd => hnot i (by simp) ((hi.executed_iff hl hk hr).mpr ⟨hit, hd⟩)
          obtain ⟨d, hd, hsd⟩ := hi.stored_of_not_due hit hn hx
          obtain ⟨k₀, hk₀, d', hd', he⟩ := hc.last_of_stored hl ((hs x).symm.trans hsd)
          obtain rfl := Option.some.inj (hk'.symm.trans hk₀)
          have hsame := hfree.contents_eq (j := i) (k := k) (by simp)
            (List.mem_cons_of_mem _ (List.mem_of_find?_eq_some hk')) hkx hd
            (Digest.hex_injective he ▸ hd')
          rw [hsame]
          exact hiff
        · rw [List.find?_cons_of_pos (by simp [hix, hit])]
          simp
      · rw [List.find?_cons_of_neg (by simpa using hix), List.find?_cons_of_neg (by simp [hix])]
        exact ⟨k, hk', hiff⟩

/-- When a target is skipped, a source file below it holds what it held when the target was last
made just if that is what the last run since then found that dealt with the file and not with the
target. -/
theorem unchanged_since_made_iff (hl : b.surroundings.Lawful) (hc : b.Chronicle rules (i :: h))
    (hfree : b.CollisionFree (i :: h)) (hk : (rules.ruleFor t).kind = .explicit)
    (hr : (rules.ruleFor t).recipe.isSome = true) (hskip : t ∈ (b.run i).report.skipped) :
    ∃ h₁ j h₂, h = h₁ ++ j :: h₂ ∧ t ∈ (b.run j).report.executed ∧
      (∀ k ∈ h₁, t ∉ (b.run k).report.executed) ∧
      ∀ x, rules.Reaches t x → (rules.ruleFor x).kind = .filename →
        (b.contents i x = b.contents j x ↔
          ∀ k ∈ b.lastApart h₁ x t, b.contents k x = b.contents j x) := by
  cases hc with
  | cons hc hi hs =>
    obtain ⟨ht, hn⟩ := (hi.skipped_iff hl).mp hskip
    obtain ⟨d, _, hd⟩ := hi.stored_of_not_due ht hn (.refl t)
    obtain ⟨k, hfind, _⟩ := hc.last_of_stored hl ((hs t).symm.trans hd)
    obtain ⟨h₁, j, h₂, rfl, hj, hnot⟩ := hc.last_executed hl hk hr
      ⟨k, List.mem_of_find?_eq_some hfind, by simpa using List.find?_some hfind⟩
    refine ⟨h₁, j, h₂, rfl, hj, hnot, fun x hx hkx => ?_⟩
    obtain ⟨k, hk', hiff⟩ := last_seen_iff hl hc
      (hfree.mono fun k hk => List.mem_cons_of_mem _ hk) hk hr hj hnot hx hkx
    obtain ⟨d, hd, hsd⟩ := hi.stored_of_not_due ht hn hx
    obtain ⟨k₀, hk₀, d', hd', he⟩ := hc.last_of_stored hl ((hs x).symm.trans hsd)
    obtain rfl := Option.some.inj (hk'.symm.trans hk₀)
    rw [hfree.contents_eq (j := i) (k := k) (by simp)
      (List.mem_cons_of_mem _ (List.mem_of_find?_eq_some hk')) hkx hd
      (Digest.hex_injective he ▸ hd')]
    exact hiff

end Workplace

namespace Bench

variable {goal text : String} {options : Options} {entries : Entries}

lemma completes (hg : goal = "app" ∨ goal = "test") :
    workplace.Completes programs (invoke goal options succeed (source text entries)) :=
  ⟨rfl, accepts hg, spares rfl, (completed hg).going⟩

lemma handles_iff {outcome : Job → Outcome} {w : Bench} (hg : goal = "app" ∨ goal = "test")
    (t : String) :
    workplace.Handles (invoke goal options outcome w) t ↔ t = "main.c" ∨ t = goal := by
  rw [Workplace.Handles, Workplace.mem_order (accepts hg)]
  exact reaches_iff hg

lemma contents_eq_get? (i : Invocation Bench) (t : String) :
    workplace.contents i t = i.world.files.get? ((workplace.sources i.world).pathOf t) := by
  cases hg : i.world.files.get? ((workplace.sources i.world).pathOf t) with
  | none =>
    have ho : (workplace.sources i.world).files.openRead ((workplace.sources i.world).pathOf t) =
        .error (.absent _) := FileSet.openRead_of_none hg
    rw [Workplace.contents, ho]
  | some bytes =>
    have ho : (workplace.sources i.world).files.openRead ((workplace.sources i.world).pathOf t) =
        .ok (.ok bytes) := FileSet.openRead_of_some hg
    rw [Workplace.contents, ho]

lemma contents_of_source {outcome : Job → Outcome} {t : String} {c : ByteArray}
    (hc : workplace.contents (invoke goal options outcome (source text entries)) t = some c) :
    c = text.toUTF8 := by
  rw [contents_eq_get?, FileSet.get?] at hc
  have hcons := (Keyed.get?_cons (Path.mk "main.c", text.toUTF8) [] _).symm.trans hc
  split at hcons
  · exact (Option.some.inj hcons).symm
  · cases hcons

lemma contents_main {outcome : Job → Outcome} :
    workplace.contents (invoke goal options outcome (source text entries)) "main.c" =
      some text.toUTF8 := (contents_eq_get? _ _).trans (get?_source _)

def first : Invocation Bench := invoke "app" {} succeed (source "1" [])

def second : Invocation Bench :=
  invoke "test" {} succeed (source "2" (workplace.run first).world.entries)

def third : Invocation Bench :=
  invoke "app" {} succeed (source "2" (workplace.run second).world.entries)

lemma first_completes : workplace.Completes programs first := completes (.inl rfl)

lemma second_completes : workplace.Completes programs second := completes (.inr rfl)

lemma third_completes : workplace.Completes programs third := completes (.inl rfl)

lemma chronicle : workplace.Chronicle programs [third, second, first] :=
  .cons (.cons (.cons .nil first_completes fun _ => rfl) second_completes fun _ => rfl)
    third_completes fun _ => rfl

lemma collisionFree : workplace.CollisionFree [third, second, first] := by
  have htexts : ∀ j ∈ [third, second, first], ∀ x c, workplace.contents j x = some c →
      c = "1".toUTF8 ∨ c = "2".toUTF8 := by
    intro j hj x c hc
    simp only [List.mem_cons, List.not_mem_nil, or_false] at hj
    rcases hj with rfl | rfl | rfl
    · exact .inr (contents_of_source hc)
    · exact .inr (contents_of_source hc)
    · exact .inl (contents_of_source hc)
  have hne : fingerprintReads (reads "1".toUTF8) ≠ fingerprintReads (reads "2".toUTF8) := by
    decide +kernel
  intro j hj k hk x c c' hc hc' hf
  rcases htexts j hj x c hc with rfl | rfl
  · rcases htexts k hk x c' hc' with rfl | rfl
    · rfl
    · exact (hne hf).elim
  · rcases htexts k hk x c' hc' with rfl | rfl
    · exact (hne hf.symm).elim
    · rfl

lemma third_skips : "app" ∈ (workplace.run third).report.skipped := by
  refine (third_completes.skipped_iff lawful).mpr
    ⟨(handles_iff (.inl rfl) _).mpr (.inr rfl), fun hdue => ?_⟩
  obtain ⟨x, hx, hn⟩ := (Workplace.due_iff rfl).mp hdue
  refine hn ((Workplace.trusted_iff third_completes.accepts hx).mpr ?_)
  rcases (reaches_iff (.inl rfl)).mp hx with rfl | rfl
  · obtain ⟨d, hd, hs⟩ :=
      second_completes.stored_run lawful ((handles_iff (.inr rfl) _).mpr (.inl rfl))
    exact ⟨rfl, d, hd, hs⟩
  · obtain ⟨d, hd, hs⟩ :=
      first_completes.stored_run lawful ((handles_iff (.inl rfl) _).mpr (.inr rfl))
    have hkept := second_completes.stored_run_of_not_handled lawful
      ((handles_iff (.inr rfl) "app").not.mpr (by decide))
    exact ⟨rfl, d, hd, hkept.trans hs⟩

end Bench

namespace Workplace

theorem unchanged_since_made_programs : ∃ h₁ j h₂, [second, first] = h₁ ++ j :: h₂ ∧
    "app" ∈ (workplace.run j).report.executed ∧
    (∀ k ∈ h₁, "app" ∉ (workplace.run k).report.executed) ∧
    ∀ x, programs.Reaches "app" x → (programs.ruleFor x).kind = .filename →
      (workplace.contents third x = workplace.contents j x ↔
        ∀ k ∈ workplace.lastApart h₁ x "app", workplace.contents k x = workplace.contents j x) :=
  unchanged_since_made_iff Bench.lawful Bench.chronicle Bench.collisionFree rfl rfl
    Bench.third_skips

/-- The run for the other program has stored the change. -/
theorem change_lost : ∃ i k j : Invocation Bench, workplace.surroundings.Lawful ∧
    workplace.Chronicle programs [i, k, j] ∧ workplace.CollisionFree [i, k, j] ∧
    programs.SourceOf "app" "main.c" ∧ "app" ∈ (workplace.run i).report.skipped ∧
    "app" ∉ (workplace.run k).report.executed ∧ "app" ∈ (workplace.run j).report.executed ∧
    workplace.contents i "main.c" ≠ workplace.contents j "main.c" := by
  refine ⟨third, second, first, Bench.lawful, Bench.chronicle, Bench.collisionFree,
    ⟨(reaches_iff (.inl rfl)).mpr (.inl rfl), rfl⟩, Bench.third_skips, fun he => ?_, ?_, ?_⟩
  · have ht := (second_completes.executed_iff Bench.lawful rfl rfl).mp he
    exact absurd ((Bench.handles_iff (.inr rfl) _).mp ht.1) (by decide)
  · refine (first_completes.executed_iff Bench.lawful rfl rfl).mpr
      ⟨(Bench.handles_iff (.inl rfl) _).mpr (.inr rfl), (Workplace.due_iff rfl).mpr ?_⟩
    refine ⟨_, .refl _, fun htrust => ?_⟩
    obtain ⟨_, d, _, hs⟩ :=
      (Workplace.trusted_iff first_completes.accepts (.refl "app")).mp htrust
    cases hs
  · rw [third, first, contents_main, contents_main]
    decide

end Workplace
end Freshen
