import Freshen.Proofs.Surroundings

/-! How each rule stands before a run: missing, forced, stale or up to date. A forecast finds just
that, and changes nothing. -/

namespace Freshen

variable {W : Type}

def Surroundings.outlook (s : Surroundings W) (root : Path) (rules : RuleStore) (c : Cache)
    (w : W) : Outlook :=
  ⟨rules, s.sources root w, s.load w c.buildId, c.made⟩

def Cache.Right (o : Outlook) (c : Cache) : Prop := ∀ t ∈ c.fresh, ¬ o.Stale t

structure Cache.Asked (o : Outlook) (c c' : Cache) : Prop where
  buildId : c'.buildId = c.buildId
  made : c'.made = c.made
  right : c'.Right o

lemma Surroundings.isStale_answers {s : Surroundings W} {root : Path} {rules : RuleStore}
    {c : Cache} {w : W} {t : String} (hc : c.Right (s.outlook root rules c w))
    (ha : rules.Acyclic t) :
    ((s.isStale root rules c w t).1 = true ↔ (s.outlook root rules c w).Stale t) ∧
      c.Asked (s.outlook root rules c w) (s.isStale root rules c w t).2.1 := by
  obtain ⟨hs, hv⟩ := Survey.ask_answers (s.outlook root rules c w) [] { fresh := c.fresh } t
    ⟨by simp, hc⟩ ha .nil
  exact ⟨hs, rfl, rfl, hv.fresh⟩

namespace Standing

def due : Standing → Bool
  | missing | upToDate => false
  | forced | stale => true

lemma eq_upToDate {st : Standing} (hm : st ≠ .missing) (hd : ¬ st.due = true) : st = .upToDate := by
  cases st with
  | missing => exact (hm rfl).elim
  | upToDate => rfl
  | forced | stale => exact (hd rfl).elim

end Standing

namespace Plan

variable (p : Plan W) {id : String} {w : W} {goal : String} {order : List Rule} {r : Rule}

def start (id : String) (w : W) : Outlook :=
  p.surroundings.outlook p.root p.rules { buildId := id } w

def Present (w : W) (r : Rule) : Prop := r.kind = .filename → p.fileExists w r.target = true

inductive Stands (id : String) (w : W) (r : Rule) : Standing → Prop
  | missing : r.kind = .filename → p.fileExists w r.target = false → Stands id w r .missing
  | forced : p.Present w r → p.options.force = true → Stands id w r .forced
  | stale : p.Present w r → p.options.force = false → (p.start id w).Stale r.target →
      Stands id w r .stale
  | upToDate : p.Present w r → p.options.force = false → ¬ (p.start id w).Stale r.target →
      Stands id w r .upToDate

variable {p}

lemma present_iff : p.Present w r ↔ ¬ (r.kind = .filename && !p.fileExists w r.target) = true := by
  simp [Present]

namespace Stands

variable {st : Standing}

lemma present (h : p.Stands id w r st) (hm : st ≠ .missing) : p.Present w r := by
  cases h with
  | missing _ _ => exact (hm rfl).elim
  | forced hp _ => exact hp
  | stale hp _ _ => exact hp
  | upToDate hp _ _ => exact hp

lemma due_iff (h : p.Stands id w r st) (hm : st ≠ .missing) :
    st.due = true ↔ p.options.force = true ∨ (p.start id w).Stale r.target := by
  cases h with
  | missing _ _ => exact (hm rfl).elim
  | forced _ hf => simp [Standing.due, hf]
  | stale _ hf hs => simp [Standing.due, hs]
  | upToDate _ hf hs => simp [Standing.due, hf, hs]

lemma unforced (h : p.Stands id w r st) (hp : p.Present w r) (hf : p.options.force = false) :
    st = .stale ∧ (p.start id w).Stale r.target ∨
      st = .upToDate ∧ ¬ (p.start id w).Stale r.target := by
  cases h with
  | missing hk hgone => exact (Bool.false_ne_true (hgone.symm.trans (hp hk))).elim
  | forced _ hf' => exact (Bool.false_ne_true (hf.symm.trans hf')).elim
  | stale _ _ hs => exact .inl ⟨rfl, hs⟩
  | upToDate _ _ hs => exact .inr ⟨rfl, hs⟩

end Stands

structure Foreseen (p : Plan W) (id : String) (w : W) (f : Forecast) (rules : List Rule) :
    Prop where
  buildId : f.cache.buildId = id
  made : f.cache.made = []
  right : f.cache.Right (p.start id w)
  rules_eq : f.standings.map (·.1) = rules
  stands : ∀ e ∈ f.standings, p.Stands id w e.1 e.2

lemma Foreseen.add {f f' : Forecast} {rs : List Rule} (st : Standing)
    (h : p.Foreseen id w f rs) (hs : p.Stands id w r st)
    (hf : f'.standings = f.standings ++ [(r, st)]) (hc : f.cache.Asked (p.start id w) f'.cache) :
    p.Foreseen id w f' (rs ++ [r]) := by
  refine ⟨hc.buildId.trans h.buildId, hc.made.trans h.made, hc.right, ?_, ?_⟩
  · rw [hf, List.map_append, h.rules_eq]
    rfl
  · intro e he
    rw [hf] at he
    rcases List.mem_append.mp he with he | he
    · exact h.stands e he
    · rw [List.mem_singleton.mp he]
      exact hs

lemma Foreseen.foresee {f : Forecast} {rs : List Rule} (h : p.Foreseen id w f rs)
    (ha : p.rules.Acyclic r.target) : p.Foreseen id w (p.foresee w f r) (rs ++ [r]) := by
  have hkept : f.cache.Asked (p.start id w) f.cache := ⟨rfl, rfl, h.right⟩
  by_cases hp : p.Present w r
  · rw [Plan.foresee, if_neg (present_iff.mp hp)]
    by_cases hf : p.options.force = true
    · rw [if_pos hf]
      exact h.add .forced (.forced hp hf) rfl hkept
    · have hf' : p.options.force = false := Bool.not_eq_true _ ▸ hf
      have ho : p.surroundings.outlook p.root p.rules f.cache w = p.start id w := by
        simp only [start, Surroundings.outlook, h.buildId, h.made]
      obtain ⟨hs, hc⟩ := Surroundings.isStale_answers (ho ▸ h.right) ha
      rw [ho] at hs hc
      rw [if_neg hf]
      refine h.add (if (p.surroundings.isStale p.root p.rules f.cache w r.target).1
        then .stale else .upToDate) ?_ rfl hc
      split
      · next hst => exact .stale hp hf' (hs.mp hst)
      · next hst => exact .upToDate hp hf' fun hs' => hst (hs.mpr hs')
  · rw [Plan.foresee, if_pos (not_not.mp fun hn => hp (present_iff.mpr hn))]
    have hm := not_not.mp fun hn => hp (present_iff.mpr hn)
    rw [Bool.and_eq_true, decide_eq_true_eq, Bool.not_eq_true'] at hm
    exact h.add .missing (.missing hm.1 hm.2) rfl hkept

lemma forecast_foreseen (p : Plan W) (id : String) (w : W) (hord : p.rules.Ordered goal order) :
    p.Foreseen id w (p.forecast { buildId := id } w order) order := by
  suffices hh : ∀ rest done f, order = done ++ rest → p.Foreseen id w f done →
      p.Foreseen id w (rest.foldl (p.foresee w) f) order from
    hh order [] _ rfl ⟨rfl, rfl, by simp [Cache.Right], rfl, by simp⟩
  intro rest
  induction rest with
  | nil =>
    intro done f he hf
    rw [he, List.append_nil]
    exact hf
  | cons r rest ih =>
    intro done f he hf
    have hr : r.target ∈ targets order := by simp [he]
    exact ih (done ++ [r]) _ (by simp [he]) (hf.foresee (hord.acyclic hr))

end Plan
end Freshen
