import Freshen.Staleness
import Freshen.Proofs.Resolution

/-! The answer to a question about staleness is the plain one: a name is stale if it reaches
something made in this run or something whose stored digest is not the present one. -/

namespace Freshen

namespace Outlook

variable {o : Outlook} {t u : String} {r : Rule}

def Trusted (o : Outlook) (t : String) : Prop :=
  ∃ r, o.rules.find? t = some r ∧ r.alwaysStale = false ∧
    ∃ d, digestOf o.sources r = .ok d ∧ o.load t = .ok (some d.hex)

def Stale (o : Outlook) (t : String) : Prop :=
  t ∉ o.made ∧ ∃ u, o.rules.Reaches t u ∧ (u ∈ o.made ∨ ¬ o.Trusted u)

lemma trusted_iff (hr : o.rules.find? t = some r) (ha : r.alwaysStale = false) :
    o.Trusted t ↔ (o.differs t r).1 = false := by
  have hu : o.Trusted t ↔ ∃ d, digestOf o.sources r = .ok d ∧ o.load t = .ok (some d.hex) := by
    constructor
    · rintro ⟨q, hq, _, h⟩
      rwa [Option.some.inj (hr.symm.trans hq)]
    · exact fun h => ⟨r, hr, ha, h⟩
  rw [hu]
  unfold differs
  cases digestOf o.sources r with
  | error e => simp
  | ok d =>
    cases o.load t with
    | error e => simp
    | ok stored => simp

lemma not_trusted_of_unknown (hr : o.rules.find? t = none) : ¬ o.Trusted t := by
  rintro ⟨r, hr', _⟩
  rw [hr] at hr'
  cases hr'

lemma not_trusted_of_always (hr : o.rules.find? t = some r) (ha : r.alwaysStale = true) :
    ¬ o.Trusted t := by
  rintro ⟨q, hq, hna, _⟩
  rw [Option.some.inj (hq.symm.trans hr), ha] at hna
  cases hna

/-- Why a name is out of date by itself. -/
inductive Doubt (o : Outlook) (t : String) : Prop
  | noRule : o.rules.find? t = none → Doubt o t
  | always {r : Rule} : o.rules.find? t = some r → r.alwaysStale = true → Doubt o t
  | undigestible {r : Rule} {e : DigestError} : o.rules.find? t = some r →
      digestOf o.sources r = .error e → Doubt o t
  | lookupFailed {e : StoreError} : o.load t = .error e → Doubt o t
  | unknown : o.load t = .ok none → Doubt o t
  | changed {r : Rule} {d : Digest} {stored : String} : o.rules.find? t = some r →
      digestOf o.sources r = .ok d → o.load t = .ok (some stored) → stored ≠ d.hex → Doubt o t

lemma not_trusted_iff : ¬ o.Trusted t ↔ o.Doubt t := by
  constructor
  · intro h
    cases hr : o.rules.find? t with
    | none => exact .noRule hr
    | some r =>
      cases ha : r.alwaysStale with
      | true => exact .always hr ha
      | false =>
        cases hd : digestOf o.sources r with
        | error e => exact .undigestible hr hd
        | ok d =>
          cases hl : o.load t with
          | error e => exact .lookupFailed hl
          | ok stored =>
            cases stored with
            | none => exact .unknown hl
            | some stored =>
              refine .changed hr hd hl fun he => h ⟨r, hr, ha, d, hd, ?_⟩
              rw [hl, he]
  · rintro h ⟨r, hr, ha, d, hd, hl⟩
    cases h with
    | noRule hr' => simp [hr] at hr'
    | always hr' ha' =>
      obtain rfl := Option.some.inj (hr.symm.trans hr')
      simp [ha] at ha'
    | undigestible hr' hd' =>
      obtain rfl := Option.some.inj (hr.symm.trans hr')
      simp [hd] at hd'
    | lookupFailed hl' => simp [hl] at hl'
    | unknown hl' => simp [hl] at hl'
    | changed hr' hd' hl' hne =>
      obtain rfl := Option.some.inj (hr.symm.trans hr')
      obtain rfl := Except.ok.inj (hd.symm.trans hd')
      simp only [hl, Except.ok.injEq, Option.some.injEq] at hl'
      exact hne hl'.symm

lemma not_stale_of_made (h : t ∈ o.made) : ¬ o.Stale t := fun hs => hs.1 h

lemma stale_of_not_trusted (hm : t ∉ o.made) (h : ¬ o.Trusted t) : o.Stale t :=
  ⟨hm, t, .refl t, .inr h⟩

lemma stale_iff (hm : t ∉ o.made) :
    o.Stale t ↔ ¬ o.Trusted t ∨ ∃ u, o.rules.Step t u ∧ (u ∈ o.made ∨ o.Stale u) := by
  constructor
  · rintro ⟨_, x, hx, hd⟩
    cases hx with
    | refl => exact .inl (hd.resolve_left hm)
    | @step _ u _ hs hr =>
      by_cases hu : u ∈ o.made
      · exact .inr ⟨u, hs, .inl hu⟩
      · exact .inr ⟨u, hs, .inr ⟨hu, x, hr, hd⟩⟩
  · rintro (h | ⟨u, hs, hu | ⟨_, x, hx, hd⟩⟩)
    · exact stale_of_not_trusted hm h
    · exact ⟨hm, u, .single hs, .inl hu⟩
    · exact ⟨hm, x, .step hs hx, hd⟩

lemma stale_iff_doubt : o.Stale t ↔ t ∉ o.made ∧ ∃ u, o.rules.Reaches t u ∧
    (u ≠ t ∧ u ∈ o.made ∨ u ∉ o.made ∧ o.Doubt u) := by
  refine and_congr_right fun hnew => exists_congr fun u => and_congr_right fun _ => ?_
  rw [not_trusted_iff]
  constructor
  · intro hu
    by_cases hm : u ∈ o.made
    · exact .inl ⟨fun he => hnew (he ▸ hm), hm⟩
    · exact .inr ⟨hm, hu.resolve_left hm⟩
  · rintro (⟨_, hm⟩ | ⟨_, hd⟩)
    · exact .inl hm
    · exact .inr hd

end Outlook

namespace Survey

variable {o : Outlook} {path : List String} {v : Survey} {t : String} {ts : List String}

structure Right (o : Outlook) (v : Survey) : Prop where
  known : ∀ t stale, v.known.lookup t = some stale → (stale = true ↔ o.Stale t)
  fresh : ∀ t ∈ v.fresh, ¬ o.Stale t

def Answers (o : Outlook) (P : Prop) (a : Bool × Survey) : Prop := (a.1 = true ↔ P) ∧ a.2.Right o

structure RightOn (P : String → Prop) (o : Outlook) (v : Survey) : Prop where
  stale : ∀ t, v.known.lookup t = some true → o.Stale t
  known : ∀ t, P t → v.known.lookup t = some false → ¬ o.Stale t
  fresh : ∀ t, P t → t ∈ v.fresh → ¬ o.Stale t

section

variable {P : String → Prop}

lemma RightOn.conclude {stale : Bool} (h : v.RightOn P o) (hs : stale = true → o.Stale t)
    (hn : P t → o.Stale t → stale = true) : (v.conclude t stale).RightOn P o := by
  have hfresh : P t → stale = false → ¬ o.Stale t := fun hp hf hst => by
    rw [hn hp hst] at hf
    cases hf
  have hknown : ∀ u b, (v.conclude t stale).known.lookup u = some b →
      u = t ∧ stale = b ∨ v.known.lookup u = some b := by
    intro u b hb
    simp only [Survey.conclude, List.lookup_cons] at hb
    split at hb
    · next he => exact .inl ⟨beq_iff_eq.mp he, Option.some.inj hb⟩
    · exact .inr hb
  refine ⟨fun u hu => ?_, fun u hp hu => ?_, fun u hp hu => ?_⟩
  · rcases hknown u true hu with ⟨rfl, hst⟩ | hu
    · exact hs hst
    · exact h.stale u hu
  · rcases hknown u false hu with ⟨rfl, hst⟩ | hu
    · exact hfresh hp hst
    · exact h.known u hp hu
  · cases stale with
    | true => exact h.fresh u hp hu
    | false =>
      rcases List.mem_cons.mp hu with rfl | hu
      · exact hfresh hp rfl
      · exact h.fresh u hp hu

lemma RightOn.report (h : v.RightOn P o) (ns : List Notice) : (v.report ns).RightOn P o :=
  ⟨h.stale, h.known, h.fresh⟩

structure AnswersOn (P : String → Prop) (o : Outlook) (p q : Prop) (a : Bool × Survey) : Prop where
  sound : a.1 = true → q
  complete : p → q → a.1 = true
  right : a.2.RightOn P o

lemma answersOn_conclude {stale : Bool} (h : v.RightOn P o) (hs : stale = true → o.Stale t)
    (hn : P t → o.Stale t → stale = true) :
    AnswersOn P o (P t) (o.Stale t) (stale, v.conclude t stale) := ⟨hs, hn, h.conclude hs hn⟩

end

lemma ask_of_noRule (hn : ¬ (decide (t ∈ o.made) || decide (t ∈ v.fresh)) = true)
    (hk : v.known.lookup t = none) (hp : t ∉ path) (hr : o.rules.find? t = none) :
    ask o path v t = (true, v.conclude t true) := by
  rw [ask, if_neg hn, hk]
  dsimp only
  rw [dif_neg hp]
  split
  · rfl
  · next hr' => rw [hr] at hr'; cases hr'

lemma ask_of_rule {r : Rule} (hn : ¬ (decide (t ∈ o.made) || decide (t ∈ v.fresh)) = true)
    (hk : v.known.lookup t = none) (hp : t ∉ path) (hr : o.rules.find? t = some r) :
    ask o path v t =
      if r.alwaysStale then (true, v.conclude t true)
      else if (askAny o (t :: path) v r.deps).1 then
        (true, (askAny o (t :: path) v r.deps).2.conclude t true)
      else ((o.differs t r).1, ((askAny o (t :: path) v r.deps).2.report
        (o.differs t r).2).conclude t (o.differs t r).1) := by
  rw [ask, if_neg hn]
  split
  · next hk' => rw [hk] at hk'; cases hk'
  · rw [dif_neg hp]
    split
    · next hr' => rw [hr] at hr'; cases hr'
    · next r' hr' => rw [Option.some.inj (hr'.symm.trans hr)]

/-- A name of `P` has to be one from which no cycle can be reached: on a cycle an answer can rest on
a name that is still being asked for. -/
lemma ask_answersOn {P : String → Prop} (o : Outlook)
    (hP : ∀ ⦃a b⦄, P a → o.rules.Step a b → P b) (path : List String) (v : Survey) (t : String)
    (hv : v.RightOn P o) (ha : ∀ x, o.rules.Reaches t x → P x → o.rules.Acyclic x)
    (hl : o.rules.Leads path t) : AnswersOn P o (P t) (o.Stale t) (ask o path v t) := by
  refine (ask.mutual_induct o
    (fun path v t => v.RightOn P o → (∀ x, o.rules.Reaches t x → P x → o.rules.Acyclic x) →
      o.rules.Leads path t → AnswersOn P o (P t) (o.Stale t) (ask o path v t))
    (fun path v ts => v.RightOn P o →
      (∀ u ∈ ts, (∀ x, o.rules.Reaches u x → P x → o.rules.Acyclic x) ∧ o.rules.Leads path u) →
      AnswersOn P o (∀ u ∈ ts, P u) (∃ u ∈ ts, u ∈ o.made ∨ o.Stale u) (askAny o path v ts))
    ?made ?known ?onPath ?noRule ?always ?dependency ?own ?nil ?consMade ?consStale ?consNot).1
    path v t hv ha hl
  case made =>
    intro path v t h hv _ _
    rw [ask, if_pos h]
    refine ⟨fun hf => (Bool.false_ne_true hf).elim, fun hp hs => ?_, hv⟩
    rw [Bool.or_eq_true, decide_eq_true_eq, decide_eq_true_eq] at h
    exact (h.elim Outlook.not_stale_of_made (hv.fresh t hp) hs).elim
  case known =>
    intro path v t h stale hk hv _ _
    rw [ask, if_neg h, hk]
    refine ⟨?_, ?_, hv⟩
    · rintro rfl
      exact hv.stale t hk
    · intro hp hs
      cases stale with
      | true => rfl
      | false => exact (hv.known t hp hk hs).elim
  case onPath =>
    intro path v t h hk hp hv ha hl
    rw [ask, if_neg h, hk]
    dsimp only
    rw [dif_pos hp]
    exact ⟨fun hf => (Bool.false_ne_true hf).elim,
      fun hpt _ => (hl.notMem (ha t (.refl t) hpt) hp).elim, hv⟩
  case noRule =>
    intro path v t h hk hp hr hv _ _
    have hm : t ∉ o.made := fun hm => h (by simp [hm])
    have hs := Outlook.stale_of_not_trusted hm (Outlook.not_trusted_of_unknown hr)
    rw [ask_of_noRule h hk hp hr]
    exact answersOn_conclude hv (fun _ => hs) fun _ _ => rfl
  case always =>
    intro path v t h hk hp r hr hal hv _ _
    have hm : t ∉ o.made := fun hm => h (by simp [hm])
    have hs := Outlook.stale_of_not_trusted hm (Outlook.not_trusted_of_always hr hal)
    rw [ask_of_rule h hk hp hr, if_pos hal]
    exact answersOn_conclude hv (fun _ => hs) fun _ _ => rfl
  case dependency =>
    intro path v t h hk hp r hr hal v' hv' ih hv ha hl
    have hm : t ∉ o.made := fun hm => h (by simp [hm])
    have hstep : ∀ u, o.rules.Step t u ↔ u ∈ r.deps := fun u => by
      rw [RuleStore.Step, RuleStore.ruleFor_of_find? hr]
    have hany := ih hv fun u hu => ⟨fun x hx => ha x (.step ((hstep u).mpr hu) hx),
      hl.cons ((hstep u).mpr hu)⟩
    obtain ⟨u, hu, hd⟩ := hany.sound (by rw [hv'])
    have hs := (Outlook.stale_iff hm).mpr (.inr ⟨u, (hstep u).mpr hu, hd⟩)
    rw [ask_of_rule h hk hp hr, if_neg hal, if_pos (by rw [hv'])]
    exact answersOn_conclude hany.right (fun _ => hs) fun _ _ => rfl
  case own =>
    intro path v t h hk hp r hr hal stale v' hv' hst stale' ns hd ih hv ha hl
    have hm : t ∉ o.made := fun hm => h (by simp [hm])
    have hstep : ∀ u, o.rules.Step t u ↔ u ∈ r.deps := fun u => by
      rw [RuleStore.Step, RuleStore.ruleFor_of_find? hr]
    have hany := ih hv fun u hu => ⟨fun x hx => ha x (.step ((hstep u).mpr hu) hx),
      hl.cons ((hstep u).mpr hu)⟩
    have hnone : ¬ (askAny o (t :: path) v r.deps).1 = true := by rwa [hv']
    rw [ask_of_rule h hk hp hr, if_neg hal, if_neg hnone]
    have ht := Outlook.trusted_iff hr (Bool.not_eq_true _ ▸ hal)
    refine answersOn_conclude (hany.right.report _) (fun hs => ?_) fun hpt hs => ?_
    · exact Outlook.stale_of_not_trusted hm fun htr => by
        rw [ht.mp htr] at hs
        cases hs
    · rcases (Outlook.stale_iff hm).mp hs with hown | ⟨u, hu, hd⟩
      · rwa [ht, Bool.not_eq_false] at hown
      · exact (hnone (hany.complete (fun u hu => hP hpt ((hstep u).mpr hu))
          ⟨u, (hstep u).mp hu, hd⟩)).elim
  case nil =>
    intro path v hv _
    rw [askAny]
    exact ⟨fun hf => (Bool.false_ne_true hf).elim, by simp, hv⟩
  case consMade =>
    intro path v t ts hm hv _
    rw [askAny, if_pos hm]
    exact ⟨fun _ => ⟨t, by simp, .inl hm⟩, fun _ _ => rfl, hv⟩
  case consStale =>
    intro path v t ts hm v' hv' ih hv h
    have hone := ih hv (h t (by simp)).1 (h t (by simp)).2
    rw [hv'] at hone
    rw [askAny, if_neg hm, hv']
    exact ⟨fun _ => ⟨t, by simp, .inr (hone.sound rfl)⟩, fun _ _ => rfl, hone.right⟩
  case consNot =>
    intro path v t ts hm stale v' hv' hst ih ihts hv h
    have hone := ih hv (h t (by simp)).1 (h t (by simp)).2
    rw [hv'] at hone
    have hrest := ihts hone.right fun u hu => h u (by simp [hu])
    rw [askAny, if_neg hm, hv']
    simp only [hst]
    refine ⟨fun hs => ?_, fun hp => ?_, hrest.right⟩
    · obtain ⟨u, hu, hd⟩ := hrest.sound hs
      exact ⟨u, by simp [hu], hd⟩
    · rintro ⟨u, hu, hd⟩
      rcases List.mem_cons.mp hu with rfl | hu
      · exact (hd.elim hm fun hd => hst (hone.complete (hp u (by simp)) hd)).elim
      · exact hrest.complete (fun u hu => hp u (by simp [hu])) ⟨u, hu, hd⟩

lemma ask_answers (o : Outlook) (path : List String) (v : Survey) (t : String)
    (hv : v.Right o) (ha : o.rules.Acyclic t) (hl : o.rules.Leads path t) :
    Answers o (o.Stale t) (ask o path v t) := by
  have h := ask_answersOn (P := fun _ => True) o (fun _ _ _ _ => trivial) path v t
    ⟨fun u hu => (hv.known u true hu).mp rfl,
      fun u _ hu hs => Bool.false_ne_true ((hv.known u false hu).mpr hs),
      fun u _ hu => hv.fresh u hu⟩ (fun x hx _ => ha.reaches hx) hl
  refine ⟨⟨h.sound, h.complete trivial⟩, fun u stale hu => ?_,
    fun u hu => h.right.fresh u trivial hu⟩
  cases stale with
  | true => exact iff_of_true rfl (h.right.stale u hu)
  | false => exact iff_of_false Bool.false_ne_true (h.right.known u trivial hu)

end Survey
end Freshen
