import Freshen.Description.Format
import Freshen.Proofs.Keys

/-! Documents and the tables in them. However a table is put together, by headers, by dotted keys
or between braces, every key stands in it once. -/

namespace Freshen

namespace Toml

inductive Value.Tidy : Value → Prop
  | string (s : String) : Tidy (.string s)
  | boolean (b : Bool) : Tidy (.boolean b)
  | number : Tidy .number
  | moment (text : String) : Tidy (.moment text)
  | array {items : List Value} : (∀ v ∈ items, Tidy v) → Tidy (.array items)
  | tables {ts : List (List (String × Value))} : (∀ t ∈ ts, Keyed.Distinct t) →
      (∀ t ∈ ts, ∀ e ∈ t, Tidy e.2) → Tidy (.tables ts)
  | table {o : Origin} {es : List (String × Value)} : Keyed.Distinct es →
      (∀ e ∈ es, Tidy e.2) → Tidy (.table o es)

structure TidyTable (es : Table) : Prop where
  distinct : Keyed.Distinct es
  values : ∀ e ∈ es, e.2.Tidy

variable {es es' sub sub' : Table} {ts : List Table} {o : Origin} {v : Value} {k : String}
  {ks : List String} {direct : Bool} {f : Table → Option Table}

lemma tidyTable_nil : TidyTable [] := ⟨Keyed.distinct_nil, by simp⟩

lemma tidy_table_iff : (Value.table o es).Tidy ↔ TidyTable es := by
  constructor
  · rintro ⟨⟩
    exact ⟨‹_›, ‹_›⟩
  · exact fun h => .table h.distinct h.values

lemma tidy_tables_iff : (Value.tables ts).Tidy ↔ ∀ t ∈ ts, TidyTable t := by
  constructor
  · rintro ⟨⟩ t ht
    exact ⟨‹∀ t ∈ ts, Keyed.Distinct t› t ht, ‹∀ t ∈ ts, ∀ e ∈ t, e.2.Tidy› t ht⟩
  · exact fun h => .tables (fun t ht => (h t ht).distinct) fun t ht => (h t ht).values

lemma TidyTable.set (h : TidyTable es) (hv : v.Tidy) (k : String) :
    TidyTable (Keyed.set k v es) := by
  refine ⟨h.distinct.set k v, fun e he => ?_⟩
  rcases Keyed.mem_of_mem_set he with rfl | he
  · exact hv
  · exact h.values e he

lemma TidyTable.get? (h : TidyTable es) (hv : Keyed.get? es k = some v) : v.Tidy :=
  h.values _ (Keyed.mem_of_get? hv)

lemma TidyTable.inside (h : TidyTable es) (hget : Keyed.get? es k = some (.table o sub))
    (hsub : TidyTable sub → TidyTable sub') : TidyTable (Keyed.set k (.table o sub') es) :=
  h.set (tidy_table_iff.mpr (hsub (tidy_table_iff.mp (h.get? hget)))) k

lemma TidyTable.inside_last (h : TidyTable es) (hget : Keyed.get? es k = some (.tables ts))
    (hlast : ts.getLast? = some sub) (hsub : TidyTable sub → TidyTable sub') :
    TidyTable (Keyed.set k (.tables (ts.dropLast ++ [sub'])) es) := by
  have hts := tidy_tables_iff.mp (h.get? hget)
  refine h.set (tidy_tables_iff.mpr fun t ht => ?_) k
  rcases List.mem_append.mp ht with ht | ht
  · exact hts t (List.dropLast_subset _ ht)
  · exact List.mem_singleton.mp ht ▸ hsub (hts sub (List.mem_of_getLast? hlast))

lemma within_tidy (hf : ∀ es es', TidyTable es → f es = some es' → TidyTable es')
    (h : TidyTable es) (hw : within f ks es = some es') : TidyTable es' := by
  induction ks generalizing es es' with
  | nil => exact hf _ _ h hw
  | cons k ks ih =>
    rw [within] at hw
    split at hw
    · obtain ⟨sub, hsub, rfl⟩ := Option.map_eq_some_iff.mp hw
      exact h.set (tidy_table_iff.mpr (ih tidyTable_nil hsub)) k
    · cases hw
    · next hget =>
      obtain ⟨sub', hsub, rfl⟩ := Option.map_eq_some_iff.mp hw
      exact h.inside hget fun hin => ih hin hsub
    · next hget =>
      split at hw
      · cases hw
      next hlast =>
      obtain ⟨sub', hsub, rfl⟩ := Option.map_eq_some_iff.mp hw
      exact h.inside_last hget hlast fun hin => ih hin hsub
    · cases hw

lemma assign_tidy (h : TidyTable es) (hv : v.Tidy) (ha : assign v direct ks es = some es') :
    TidyTable es' := by
  induction ks generalizing direct es es' with
  | nil => cases ha
  | cons k ks ih =>
    cases ks with
    | nil =>
      rw [assign] at ha
      split at ha
      · exact Option.some.inj ha ▸ h.set hv k
      · cases ha
    | cons k' ks =>
      rw [assign] at ha
      split at ha
      · obtain ⟨sub, hsub, rfl⟩ := Option.map_eq_some_iff.mp ha
        exact h.set (tidy_table_iff.mpr (ih tidyTable_nil hsub)) k
      · next hget =>
        obtain ⟨sub', hsub, rfl⟩ := Option.map_eq_some_iff.mp ha
        exact h.inside hget fun hin => ih hin hsub
      · next hget =>
        obtain ⟨sub', hsub, rfl⟩ := Option.map_eq_some_iff.mp ha
        exact h.inside hget fun hin => ih hin hsub
      · next hget =>
        split at ha
        · cases ha
        next hlast =>
        obtain ⟨sub', hsub, rfl⟩ := Option.map_eq_some_iff.mp ha
        exact h.inside_last hget hlast fun hin => ih hin hsub
      · cases ha
      · simp

lemma beginTable_tidy (h : TidyTable es) (hb : beginTable k es = some es') : TidyTable es' := by
  rw [beginTable] at hb
  split at hb
  · exact Option.some.inj hb ▸ h.set (tidy_table_iff.mpr tidyTable_nil) k
  · next sub hget =>
    exact Option.some.inj hb ▸ h.set (tidy_table_iff.mpr (tidy_table_iff.mp (h.get? hget))) k
  · cases hb

lemma beginElement_tidy (h : TidyTable es) (hb : beginElement k es = some es') :
    TidyTable es' := by
  rw [beginElement] at hb
  split at hb
  · refine Option.some.inj hb ▸ h.set (tidy_tables_iff.mpr ?_) k
    simp [tidyTable_nil]
  · next ts hget =>
    refine Option.some.inj hb ▸ h.set (tidy_tables_iff.mpr fun t ht => ?_) k
    rcases List.mem_append.mp ht with ht | ht
    · exact tidy_tables_iff.mp (h.get? hget) t ht
    · exact List.mem_singleton.mp ht ▸ tidyTable_nil
  · cases hb

section

variable {depth : Nat} {cs r : List Char}

lemma scalar?_tidy (h : scalar? cs = some v) : v.Tidy := by
  rw [scalar?] at h
  split at h
  · exact Option.some.inj h ▸ .boolean true
  · split at h
    · exact Option.some.inj h ▸ .boolean false
    · split at h
      · exact Option.some.inj h ▸ .number
      · obtain ⟨t, -, rfl⟩ := Option.map_eq_some_iff.mp h
        exact .moment _

structure TidyReaders (n : Nat) : Prop where
  value : ∀ {depth : Nat} {cs r : List Char} {v : Value},
    value? n depth cs = some (v, r) → v.Tidy
  items : ∀ {depth : Nat} {cs r : List Char} {vs : List Value},
    items? n depth cs = some (vs, r) → ∀ v ∈ vs, v.Tidy
  pairs : ∀ {depth : Nat} {cs r : List Char} {es es' : Table},
    TidyTable es → pairs? n depth es cs = some (es', r) → TidyTable es'

lemma TidyReaders.value_succ {n : Nat} (ih : TidyReaders n)
    (h : value? (n + 1) depth cs = some (v, r)) : v.Tidy := by
  unfold value? at h
  split at h
  · split at h
    · cases h
    · obtain ⟨⟨vs, r'⟩, hitems, heq⟩ := Option.map_eq_some_iff.mp h
      cases heq
      exact .array (ih.items hitems)
  · split at h
    · cases h
    · obtain ⟨⟨es, r'⟩, hpairs, heq⟩ := Option.map_eq_some_iff.mp h
      cases heq
      exact tidy_table_iff.mpr (ih.pairs tidyTable_nil hpairs)
  · split at h
    · obtain ⟨⟨t, r'⟩, -, heq⟩ := Option.map_eq_some_iff.mp h
      cases heq
      exact .string _
    · obtain ⟨v', hscalar, heq⟩ := Option.map_eq_some_iff.mp h
      cases heq
      exact scalar?_tidy hscalar
  · cases h

lemma TidyReaders.items_succ {n : Nat} {vs : List Value} (ih : TidyReaders n)
    (h : items? (n + 1) depth cs = some (vs, r)) : ∀ v ∈ vs, v.Tidy := by
  rw [items?] at h
  split at h
  · cases h
    simp
  · split at h
    · cases h
    next v r' hv =>
    split at h
    · obtain ⟨⟨vs', r''⟩, hrest, heq⟩ := Option.map_eq_some_iff.mp h
      cases heq
      exact List.forall_mem_cons.mpr ⟨ih.value hv, ih.items hrest⟩
    · cases h
      exact List.forall_mem_singleton.mpr (ih.value hv)
    · cases h
  · cases h

lemma TidyReaders.pairs_succ {n : Nat} (ih : TidyReaders n) (hes : TidyTable es)
    (h : pairs? (n + 1) depth es cs = some (es', r)) : TidyTable es' := by
  rw [pairs?] at h
  split at h
  · cases h
    exact hes
  · split at h
    · split at h
      · cases h
      next v r' hv =>
      split at h
      · next hassign _ => exact ih.pairs (assign_tidy hes (ih.value hv) hassign) h
      · next hassign _ =>
        cases h
        exact assign_tidy hes (ih.value hv) hassign
      · cases h
    · cases h
  · cases h

lemma tidyReaders (n : Nat) : TidyReaders n := by
  induction n with
  | zero =>
    refine ⟨fun h => ?_, fun h => ?_, fun _ h => ?_⟩
    · rw [value?] at h
      cases h
    · rw [items?] at h
      cases h
    · rw [pairs?] at h
      cases h
  | succ n ih => exact ⟨ih.value_succ, ih.items_succ, ih.pairs_succ⟩

end

namespace Draft

variable {d d' : Draft} {cs r : List Char} {n : Nat}

lemma line?_tidy (h : TidyTable d.root) (hl : line? n d cs = some (d', r)) :
    TidyTable d'.root := by
  have hheader : ∀ {begin_ : String → Table → Option Table} {ks : List String} {d' : Draft},
      (∀ k es es', TidyTable es → begin_ k es = some es' → TidyTable es') →
      d.header? begin_ ks = some d' → TidyTable d'.root := by
    intro begin_ ks d' hbegin hd
    rw [header?] at hd
    split at hd
    · cases hd
    · obtain ⟨root, hw, rfl⟩ := Option.map_eq_some_iff.mp hd
      exact within_tidy (hbegin _) h hw
  unfold line? at hl
  split at hl
  · split at hl
    · obtain ⟨d₁, hd, heq⟩ := Option.map_eq_some_iff.mp hl
      cases heq
      exact hheader (fun _ _ _ => beginElement_tidy) hd
    · cases hl
  · split at hl
    · obtain ⟨d₁, hd, heq⟩ := Option.map_eq_some_iff.mp hl
      cases heq
      exact hheader (fun _ _ _ => beginTable_tidy) hd
    · cases hl
  · split at hl
    · split at hl
      · next v r' hv =>
        obtain ⟨d₁, hd, heq⟩ := Option.map_eq_some_iff.mp hl
        cases heq
        rw [assign?] at hd
        obtain ⟨root, hw, rfl⟩ := Option.map_eq_some_iff.mp hd
        exact within_tidy (fun _ _ hes => assign_tidy hes ((tidyReaders n).value hv)) h hw
      · cases hl
    · cases hl

lemma lines?_tidy (h : TidyTable d.root) (hl : lines? n d cs = some d') :
    TidyTable d'.root := by
  induction n generalizing d cs with
  | zero => cases hl
  | succ n ih =>
    rw [lines?] at hl
    split at hl
    · exact Option.some.inj hl ▸ h
    · obtain ⟨r, -, hrest⟩ := Option.bind_eq_some_iff.mp hl
      exact ih h hrest
    · obtain ⟨r, -, hrest⟩ := Option.bind_eq_some_iff.mp hl
      exact ih h hrest
    · obtain ⟨r, -, hrest⟩ := Option.bind_eq_some_iff.mp hl
      exact ih h hrest
    · split at hl
      · cases hl
      next d₁ r hline =>
      obtain ⟨r', -, hrest⟩ := Option.bind_eq_some_iff.mp hl
      exact ih (line?_tidy h hline) hrest

end Draft

lemma parse?_tidy {text : String} (h : parse? text = some es) : TidyTable es := by
  rw [parse?] at h
  obtain ⟨d, hd, rfl⟩ := Option.map_eq_some_iff.mp h
  exact Draft.lines?_tidy tidyTable_nil hd

end Toml

namespace Description.Format

open Toml

variable {v : Value} {vars : Vars} {text : String} {raw : RawDescription}

lemma mapM_keys {es : Table} (h : (es.mapM fun e => (string? e.2).map (e.1, ·)) = some vars) :
    vars.map (·.1) = es.map (·.1) := by
  induction es generalizing vars with
  | nil =>
    cases h
    rfl
  | cons e es ih =>
    rw [List.mapM_cons] at h
    obtain ⟨d, hd, hrest⟩ := Option.bind_eq_some_iff.mp h
    obtain ⟨ds, hds, heq⟩ := Option.bind_eq_some_iff.mp hrest
    obtain ⟨s, -, rfl⟩ := Option.map_eq_some_iff.mp hd
    cases heq
    rw [List.map_cons, List.map_cons, ih hds]

lemma vars?_distinct (hv : v.Tidy) (h : vars? v = some vars) : Keyed.Distinct vars := by
  rw [vars?] at h
  obtain ⟨es, hes, hmap⟩ := Option.bind_eq_some_iff.mp h
  rw [Keyed.Distinct, mapM_keys hmap]
  cases v with
  | table o sub =>
    cases hes
    exact (tidy_table_iff.mp hv).distinct
  | moment t =>
    cases hes
    exact List.nodup_singleton _
  | _ => cases hes

lemma parse?_distinct (h : parse? text = some raw) : Keyed.Distinct raw.vars := by
  obtain ⟨es, hes, hraw⟩ := Option.bind_eq_some_iff.mp h
  have htidy := parse?_tidy hes
  simp only [ofEntries?, Option.bind_eq_bind, Option.bind_eq_some_iff] at hraw
  obtain ⟨_, -, _, -, vars, hvars, _, -, heq⟩ := hraw
  obtain rfl := Option.some.inj heq
  cases hget : Keyed.get? es "vars" with
  | none =>
    rw [hget] at hvars
    cases hvars
    exact Keyed.distinct_nil
  | some v =>
    rw [hget] at hvars
    exact vars?_distinct (htidy.get? hget) hvars

end Description.Format
end Freshen
