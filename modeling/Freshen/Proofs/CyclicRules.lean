import Freshen.Proofs.Standing

/-! Staleness where rules may depend on each other in a circle. Whatever is found stale is stale.
What is found up to date is so as well, if nothing was remembered before or no cycle can be
reached. -/

namespace Freshen

namespace Survey

variable {o : Outlook} {path : List String} {v : Survey} {t u : String} {ts : List String}

/-- A survey that has found nothing stale yet: what it has found up to date depends on nothing but
that and the names that are still being asked for. -/
structure Clear (o : Outlook) (path : List String) (v : Survey) : Prop where
  known : ∀ t stale, v.known.lookup t = some stale → t ∈ v.fresh
  trusted : ∀ t ∈ v.fresh, o.Trusted t
  closed : ∀ t ∈ v.fresh, ∀ u, o.rules.Step t u → u ∉ o.made ∧ (u ∈ v.fresh ∨ u ∈ path)

structure Settles (o : Outlook) (path : List String) (v v' : Survey) (ts : List String) :
    Prop where
  clear : v'.Clear o path
  kept : ∀ t ∈ v.fresh, t ∈ v'.fresh
  settled : ∀ t ∈ ts, t ∉ o.made ∧ (t ∈ v'.fresh ∨ t ∈ path)

lemma Clear.cons (h : v.Clear o path) (t : String) : v.Clear o (t :: path) :=
  ⟨h.known, h.trusted, fun a ha u hu =>
    ⟨(h.closed a ha u hu).1, (h.closed a ha u hu).2.imp_right (List.mem_cons_of_mem t)⟩⟩

lemma Settles.cons {v' v'' : Survey} (h : Settles o path v v' [t])
    (h' : Settles o path v' v'' ts) : Settles o path v v'' (t :: ts) := by
  refine ⟨h'.clear, fun u hu => h'.kept u (h.kept u hu), fun u hu => ?_⟩
  rcases List.mem_cons.mp hu with rfl | hu
  · have ht := h.settled u List.mem_cons_self
    exact ⟨ht.1, ht.2.imp_left (h'.kept u)⟩
  · exact h'.settled u hu

lemma Settles.conclude {v' : Survey} (hm : t ∉ o.made) (ht : o.Trusted t)
    (hts : ∀ u, o.rules.Step t u → u ∈ ts) (ns : List Notice)
    (h : Settles o (t :: path) v v' ts) :
    Settles o path v ((v'.report ns).conclude t false) [t] := by
  -- What was left open because `t` was still being asked for is settled with `t`.
  have hfresh : ∀ u, u ∈ v'.fresh ∨ u ∈ t :: path →
      u ∈ ((v'.report ns).conclude t false).fresh ∨ u ∈ path := by
    rintro u (hu | hu)
    · exact .inl (List.mem_cons_of_mem t hu)
    · rcases List.mem_cons.mp hu with rfl | hu
      · exact .inl List.mem_cons_self
      · exact .inr hu
  refine ⟨⟨fun u stale hu => ?_, fun u hu => ?_, fun u hu d hd => ?_⟩,
    fun u hu => List.mem_cons_of_mem t (h.kept u hu), fun u hu => ?_⟩
  · simp only [Survey.conclude, List.lookup_cons] at hu
    split at hu
    · next he => exact beq_iff_eq.mp he ▸ List.mem_cons_self
    · exact List.mem_cons_of_mem t (h.clear.known u stale hu)
  · rcases List.mem_cons.mp hu with rfl | hu
    · exact ht
    · exact h.clear.trusted u hu
  · have hd' : d ∉ o.made ∧ (d ∈ v'.fresh ∨ d ∈ t :: path) := by
      rcases List.mem_cons.mp hu with rfl | hu
      · exact h.settled d (hts d hd)
      · exact h.clear.closed u hu d hd
    exact ⟨hd'.1, hfresh d hd'.2⟩
  · rw [List.mem_singleton.mp hu]
    exact ⟨hm, .inl List.mem_cons_self⟩

lemma ask_settles (o : Outlook) (path : List String) (v : Survey) (t : String)
    (hv : v.Clear o path) (hm : t ∉ o.made) (hf : (ask o path v t).1 = false) :
    Settles o path v (ask o path v t).2 [t] := by
  refine (ask.mutual_induct o
    (fun path v t => v.Clear o path → t ∉ o.made → (ask o path v t).1 = false →
      Settles o path v (ask o path v t).2 [t])
    (fun path v ts => v.Clear o path → (askAny o path v ts).1 = false →
      Settles o path v (askAny o path v ts).2 ts)
    ?made ?known ?onPath ?noRule ?always ?dependency ?own ?nil ?consMade ?consStale ?consNot).1
    path v t hv hm hf
  case made =>
    intro path v t h hv hm _
    rw [ask, if_pos h]
    refine ⟨hv, fun _ hu => hu, fun u hu => ?_⟩
    obtain rfl := List.mem_singleton.mp hu
    exact ⟨hm, .inl (by simpa [hm] using h)⟩
  case known =>
    intro path v t h stale hk hv _ _
    exact (h (by simp [hv.known t stale hk])).elim
  case onPath =>
    intro path v t h hk hp hv hm hf
    rw [ask, if_neg h, hk]
    dsimp only
    rw [dif_pos hp]
    refine ⟨hv, fun _ hu => hu, fun u hu => ?_⟩
    rw [List.mem_singleton.mp hu]
    exact ⟨hm, .inr hp⟩
  case noRule =>
    intro path v t h hk hp hr _ _ hf
    rw [ask_of_noRule h hk hp hr] at hf
    cases hf
  case always =>
    intro path v t h hk hp r hr hal _ _ hf
    rw [ask_of_rule h hk hp hr, if_pos hal] at hf
    cases hf
  case dependency =>
    intro path v t h hk hp r hr hal v' hv' _ _ _ hf
    rw [ask_of_rule h hk hp hr, if_neg hal, if_pos (by rw [hv'])] at hf
    cases hf
  case own =>
    intro path v t h hk hp r hr hal stale v' hv' hst stale' ns hd ih hv hm hf
    have hnone : (askAny o (t :: path) v r.deps).1 = false := by
      rw [hv']
      exact Bool.not_eq_true _ ▸ hst
    rw [ask_of_rule h hk hp hr, if_neg hal, if_neg (by simp [hnone])] at hf ⊢
    dsimp only at hf
    rw [hf]
    refine (ih (hv.cons t) hnone).conclude hm ?_ (fun u hu => ?_) _
    · exact (Outlook.trusted_iff hr (Bool.not_eq_true _ ▸ hal)).mpr hf
    · rwa [RuleStore.Step, RuleStore.ruleFor_of_find? hr] at hu
  case nil =>
    intro path v hv _
    rw [askAny]
    exact ⟨hv, fun _ hu => hu, by simp⟩
  case consMade =>
    intro path v t ts hm _ hf
    rw [askAny, if_pos hm] at hf
    cases hf
  case consStale =>
    intro path v t ts hm v' hv' _ _ hf
    rw [askAny, if_neg hm, hv'] at hf
    cases hf
  case consNot =>
    intro path v t ts hm stale v' hv' hst ih ihts hv hf
    obtain rfl : stale = false := Bool.not_eq_true _ ▸ hst
    have hone := ih hv hm (by rw [hv'])
    rw [hv'] at hone
    rw [askAny, if_neg hm, hv'] at hf ⊢
    exact hone.cons (ihts hone.clear hf)

lemma Clear.reaches (h : v.Clear o []) (ht : t ∈ v.fresh) (hr : o.rules.Reaches t u) :
    u ∈ v.fresh ∧ (u = t ∨ u ∉ o.made) := by
  induction hr with
  | refl => exact ⟨ht, .inl rfl⟩
  | @step t a u hs hr ih =>
    obtain ⟨hm, ha⟩ := h.closed t ht a hs
    obtain ⟨hu, hor⟩ := ih (ha.resolve_right List.not_mem_nil)
    exact ⟨hu, .inr (hor.elim (fun he => he ▸ hm) id)⟩

lemma Clear.not_stale (h : v.Clear o []) (ht : t ∈ v.fresh) : ¬ o.Stale t := by
  rintro ⟨hm, u, hr, hu⟩
  obtain ⟨hf, hor⟩ := h.reaches ht hr
  rcases hu with hu | hu
  · exact hor.elim (fun he => hm (he ▸ hu)) fun hn => hn hu
  · exact hu (h.trusted u hf)

lemma ask_forgotten (o : Outlook) (t : String) :
    (ask o [] { fresh := [] } t).1 = true ↔ o.Stale t := by
  constructor
  · have h := ask_answersOn (P := fun _ => False) o (fun _ _ hp => hp.elim) [] { fresh := [] } t
      ⟨by simp, by simp, by simp⟩ (fun _ _ hp => hp.elim) .nil
    exact h.sound
  · intro hs
    by_contra hf
    -- With the way empty, all that `t` reaches has been found up to date.
    have hempty : ({ fresh := [] } : Survey).Clear o [] := ⟨by simp, by simp, by simp⟩
    have h := ask_settles o [] _ t hempty hs.1 (Bool.not_eq_true _ ▸ hf)
    have ht := (h.settled t List.mem_cons_self).2.resolve_right List.not_mem_nil
    exact h.clear.not_stale ht hs

end Survey

namespace Surroundings

variable {W : Type} {s : Surroundings W} {root : Path} {rules : RuleStore} {c : Cache} {w : W}
  {t : String}

lemma isStale_sound (h : (s.isStale root rules c w t).1 = true) :
    (s.outlook root rules c w).Stale t :=
  (Survey.ask_answersOn (P := fun _ => False) (s.outlook root rules c w) (fun _ _ hp => hp.elim) []
    { fresh := c.fresh } t ⟨by simp, by simp, fun _ hp => hp.elim⟩ (fun _ _ hp => hp.elim)
    .nil).sound h

lemma isStale_forgotten (h : c.fresh = []) :
    (s.isStale root rules c w t).1 = true ↔ (s.outlook root rules c w).Stale t := by
  have hask : (s.isStale root rules c w t).1 =
    (Survey.ask (s.outlook root rules c w) [] { fresh := c.fresh } t).1 := rfl
  rw [hask, h, Survey.ask_forgotten]

def RightApart (s : Surroundings W) (root : Path) (rules : RuleStore) (c : Cache) (w : W) : Prop :=
  ∀ t, rules.Acyclic t → t ∈ c.fresh → ¬ (s.outlook root rules c w).Stale t

lemma isStale_apart (hc : s.RightApart root rules c w) (t : String) :
    (rules.Acyclic t → ((s.isStale root rules c w t).1 = true ↔
      (s.outlook root rules c w).Stale t)) ∧
    s.RightApart root rules (s.isStale root rules c w t).2.1 w := by
  have h := Survey.ask_answersOn (P := rules.Acyclic) (s.outlook root rules c w)
    (fun _ _ ha hs => ha.step hs) [] { fresh := c.fresh } t ⟨by simp, by simp, hc⟩
    (fun _ _ ha => ha) .nil
  exact ⟨fun ha => ⟨h.sound, h.complete ha⟩, h.right.fresh⟩

end Surroundings
end Freshen
