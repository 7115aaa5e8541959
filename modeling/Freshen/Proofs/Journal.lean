import Freshen.Proofs.Course

/-! What the trace and the report of a run tell of the rules dealt with so far, in their order, and
of the recipes handed out. -/

namespace Freshen

variable {W : Type}

def Event.dealt? : Event → Option String
  | skipped t | recorded t _ => some t
  | handedOut _ | printed _ | noticed _ => none

def dealt (es : List Event) : List String := es.filterMap Event.dealt?

lemma mem_dealt {es : List Event} {t : String} :
    t ∈ dealt es ↔ .skipped t ∈ es ∨ ∃ d, .recorded t d ∈ es := by
  rw [dealt, List.mem_filterMap]
  constructor
  · rintro ⟨e, he, ht⟩
    cases e with
    | skipped u =>
      obtain rfl := Option.some.inj ht
      exact .inl he
    | recorded u d =>
      obtain rfl := Option.some.inj ht
      exact .inr ⟨d, he⟩
    | handedOut _ | printed _ | noticed _ => cases ht
  · rintro (he | ⟨d, he⟩)
    · exact ⟨_, he, rfl⟩
    · exact ⟨_, he, rfl⟩

def Event.Idle (e : Event) : Prop := e.dealt? = none ∧ e.job? = none

lemma Event.idle_noticed {e : Event} {ns : List Notice} (he : e ∈ ns.map noticed) : e.Idle := by
  obtain ⟨n, _, rfl⟩ := List.mem_map.mp he
  exact ⟨rfl, rfl⟩

lemma Event.idle_printed {e : Event} {ls : List OutputLine} (he : e ∈ ls.map printed) :
    e.Idle := by
  obtain ⟨l, _, rfl⟩ := List.mem_map.mp he
  exact ⟨rfl, rfl⟩

namespace Report

structure Accounts (rep : Report) (rules : List Rule) : Prop where
  once : ∀ t ∈ targets rules,
    [rep.executed, rep.refreshed, rep.grouped, rep.skipped].countP (t ∈ ·) = 1
  inOrder : ∀ l ∈ [rep.executed, rep.refreshed, rep.grouped, rep.skipped],
    l.Sublist (targets rules)
  file : ∀ rule ∈ rules, rule.kind = .filename →
    rule.target ∉ rep.executed ∧ rule.target ∉ rep.grouped
  recipe : ∀ rule ∈ rules, rule.kind = .explicit → rule.recipe.isSome = true →
    rule.target ∉ rep.refreshed ∧ rule.target ∉ rep.grouped
  bare : ∀ rule ∈ rules, rule.kind = .explicit → rule.recipe = none →
    rule.target ∉ rep.executed ∧ rule.target ∉ rep.refreshed

variable {l : List (Rule × Standing)} {e : Rule × Standing}

lemma Accounts.executed_eq_nil {rep : Report} {rules : List Rule} (h : rep.Accounts rules)
    (hf : ∀ rule ∈ rules, rule.kind = .filename) : rep.executed = [] := by
  refine List.eq_nil_iff_forall_not_mem.mpr fun t ht => ?_
  have hsub := h.inOrder _ (List.mem_cons_self ..)
  obtain ⟨rule, hr, rfl⟩ := List.mem_map.mp (hsub.subset ht)
  exact (h.file rule hr (hf rule hr)).1 ht

lemma entered_sublist (l : List (Rule × Standing)) (q : Rule × Standing → Bool) :
    (entered l q).Sublist (targets (l.map (·.1))) := by
  rw [targets, List.map_map]
  exact List.filter_sublist.map _

lemma mem_entered_iff (hn : (targets (l.map (·.1))).Nodup) (he : e ∈ l)
    (q : Rule × Standing → Bool) : e.1.target ∈ entered l q ↔ q e = true := by
  rw [mem_entered]
  constructor
  · rintro ⟨e', he', hq, ht⟩
    rw [targets, List.map_map] at hn
    rwa [← List.inj_on_of_nodup_map hn he' he ht]
  · exact fun hq => ⟨e, he, hq, rfl⟩

lemma foretold_accounts (hn : (targets (l.map (·.1))).Nodup) (hp : ∀ e ∈ l, e.2 ≠ .missing) :
    (foretold l).Accounts (l.map (·.1)) := by
  have hmem := fun e (he : e ∈ l) => mem_entered_iff hn he
  refine ⟨?_, ?_, ?_, ?_, ?_⟩
  · intro t ht
    obtain ⟨_, hr, rfl⟩ := List.mem_map.mp ht
    obtain ⟨e, he, rfl⟩ := List.mem_map.mp hr
    simp only [List.countP_cons, List.countP_nil, foretold, hmem e he]
    by_cases hd : e.2.due = true
    · cases e.1.kind <;> cases e.1.recipe <;> simp [hd, not_upToDate hd]
    · simp [Standing.eq_upToDate (hp e he) hd, Standing.due]
  · intro k hk
    simp only [List.mem_cons, List.not_mem_nil, or_false, foretold] at hk
    rcases hk with rfl | rfl | rfl | rfl
    all_goals exact entered_sublist l _
  · intro rule hr hk
    obtain ⟨e, he, rfl⟩ := List.mem_map.mp hr
    simp [foretold, hmem e he, hk]
  · intro rule hr hk hrec
    obtain ⟨e, he, rfl⟩ := List.mem_map.mp hr
    simp [foretold, hmem e he, hk, Option.ne_none_iff_isSome.mpr hrec]
  · intro rule hr hk hrec
    obtain ⟨e, he, rfl⟩ := List.mem_map.mp hr
    simp [foretold, hmem e he, hk, hrec]

end Report

namespace Plan

variable (p : Plan W)

structure Fits (rule : Rule) (j : Job) : Prop where
  target : j.target = rule.target
  recipe : rule.recipe = some j.recipe
  inputs : j.inputs = rule.deps
  workdir : j.workdir = p.root

def Issues (order : List Rule) (before : List Event) (j : Job) : Prop :=
  ∃ done rule rest, order = done ++ rule :: rest ∧ p.Fits rule j ∧ dealt before = targets done

structure Journal (order : List Rule) (done : List (Rule × Standing)) (extra : List Job)
    (trace : List Event) (rep : Report) : Prop where
  present : ∀ e ∈ done, e.2 ≠ .missing
  dealt : dealt trace = handled done
  report : rep = Report.foretold done
  jobs : (trace.filterMap Event.job?).map (·.target) = rep.executed ++ extra.map (·.target)
  issued : ∀ before j, before ++ [.handedOut j] <+: trace → p.Issues order before j

variable {p} {order rest : List Rule} {done : List (Rule × Standing)} {extra : List Job}
  {trace es : List Event} {rep rep' : Report} {e : Rule × Standing} {a : Event} {rule : Rule}
  {j : Job}

lemma dealt_append (es es' : List Event) :
    Freshen.dealt (es ++ es') = Freshen.dealt es ++ Freshen.dealt es' := List.filterMap_append

namespace Journal

lemma start (p : Plan W) (order : List Rule) : p.Journal order [] [] [] {} where
  present := by simp
  dealt := rfl
  report := rfl
  jobs := rfl
  issued before j h := by simp at h

lemma issued_snoc (h : p.Journal order done extra trace rep) (ha : ∀ j, a ≠ .handedOut j) :
    ∀ before j, before ++ [.handedOut j] <+: trace ++ [a] → p.Issues order before j := by
  intro before j hb
  rcases List.prefix_concat_iff.mp hb with he | hb
  · exact (ha j (List.append_singleton_inj.mp he).2.symm).elim
  · exact h.issued before j hb

lemma idle (h : p.Journal order done extra trace rep) (hes : ∀ a ∈ es, a.Idle) :
    p.Journal order done extra (trace ++ es) rep := by
  induction es generalizing trace with
  | nil => rwa [List.append_nil]
  | cons a es ih =>
    obtain ⟨hd, hj⟩ := hes a (by simp)
    have hne : ∀ j, a ≠ .handedOut j := by
      rintro j rfl
      cases hj
    have ha : p.Journal order done extra (trace ++ [a]) rep := by
      refine ⟨h.present, ?_, h.report, ?_, h.issued_snoc hne⟩
      · rw [dealt_append, h.dealt]
        simp [Freshen.dealt, hd]
      · rw [List.filterMap_append, ← h.jobs]
        simp [hj]
    have hrest := ih ha fun b hb => hes b (List.mem_cons_of_mem _ hb)
    rwa [List.append_assoc, List.singleton_append] at hrest

lemma handOut (h : p.Journal order done [] trace rep)
    (he : order = done.map (·.1) ++ rule :: rest) (hj : p.Fits rule j) :
    p.Journal order done [j] (trace ++ [.handedOut j]) rep := by
  refine ⟨h.present, ?_, h.report, ?_, ?_⟩
  · rw [dealt_append, h.dealt]
    exact List.append_nil _
  · rw [List.filterMap_append, List.map_append, h.jobs]
    simp [Event.job?]
  · intro before j' hb
    rcases List.prefix_concat_iff.mp hb with heq | hb
    · obtain ⟨rfl, hjj⟩ := List.append_singleton_inj.mp heq
      obtain rfl := Event.handedOut.inj hjj
      exact ⟨_, rule, rest, he, hj, h.dealt⟩
    · exact h.issued before j' hb

lemma deal (h : p.Journal order done extra trace rep) (he : e.2 ≠ .missing)
    (ha : a.dealt? = some e.1.target) (hrep : rep' = Report.foretold (done ++ [e]))
    (hexec : rep'.executed = rep.executed ++ extra.map (·.target)) :
    p.Journal order (done ++ [e]) [] (trace ++ [a]) rep' := by
  have hidle : a.job? = none := by
    cases a with
    | handedOut j => cases ha
    | skipped _ | recorded _ _ | printed _ | noticed _ => rfl
  have hne : ∀ j, a ≠ .handedOut j := by
    rintro j rfl
    cases ha
  refine ⟨forall_mem_snoc h.present he, ?_, hrep, ?_, h.issued_snoc hne⟩
  · rw [dealt_append, h.dealt]
    simp [Freshen.dealt, ha, handled]
  · rw [List.filterMap_append, List.map_append, h.jobs, hexec]
    simp [hidle]

lemma accounts (h : p.Journal order done extra trace rep) (hn : (handled done).Nodup) :
    rep.Accounts (done.map (·.1)) := by
  rw [h.report]
  exact Report.foretold_accounts hn h.present

end Journal

end Plan
end Freshen
