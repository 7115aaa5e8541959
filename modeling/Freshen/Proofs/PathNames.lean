import Freshen.Files
import Freshen.Proofs.Lines
import Mathlib.Data.List.DropRight

/-! The names that a path consists of, single dots left out. To join a relative path is to append
its names, to go to the parent is to drop the last one, and paths of the same names are the same
file in memory. -/

namespace Freshen

namespace Text

variable {α : Type*} {sep : α} {ws zs : List (List α)}

lemma joined_append (hw : ws ≠ []) (hz : zs ≠ []) :
    joined sep (ws ++ zs) = joined sep ws ++ sep :: joined sep zs := by
  induction ws with
  | nil => exact (hw rfl).elim
  | cons w ws ih =>
    cases ws with
    | nil =>
      obtain ⟨z, zs, rfl⟩ := List.exists_cons_of_ne_nil hz
      rfl
    | cons w' ws =>
      have hrest := ih (List.cons_ne_nil w' ws)
      simp only [List.cons_append, joined] at hrest ⊢
      rw [hrest]
      simp

lemma joined_prefix (h : ws <+: zs) : joined sep ws <+: joined sep zs := by
  obtain ⟨rest, rfl⟩ := h
  cases ws with
  | nil => exact List.nil_prefix
  | cons w ws =>
    cases rest with
    | nil => rw [List.append_nil]
    | cons z rest =>
      rw [joined_append (List.cons_ne_nil w ws) (List.cons_ne_nil z rest)]
      exact List.prefix_append _ _

lemma pieces_joined [DecidableEq α] (h : ∀ w ∈ ws, sep ∉ w) (hw : ws ≠ []) :
    pieces sep (joined sep ws) = ws := by
  induction ws with
  | nil => exact (hw rfl).elim
  | cons w ws ih =>
    have hhead := pieces_of_notMem (h w List.mem_cons_self)
    cases ws with
    | nil => exact hhead
    | cons w' ws =>
      have hrest := ih (fun v hv => h v (List.mem_cons_of_mem w hv)) (List.cons_ne_nil w' ws)
      rw [joined, pieces_append, hhead, hrest]
      · rfl
      · exact List.cons_ne_nil w' ws

end Text

namespace Path

open Text

variable {p q base : Path} {name : String} {cs xs ys s : List Char} {ws : List (List Char)}

def comps (p : Path) : List Component := p.components.filter (· ≠ .here)

def named (ws : List (List Char)) : List Component := (ws.filter (!isIdle ·)).map segment

lemma named_append (ws zs : List (List Char)) : named (ws ++ zs) = named ws ++ named zs := by
  simp [named]

lemma named_idle (h : ∀ w ∈ ws, isIdle w = true) : named ws = [] := by
  have hnone : ws.filter (!isIdle ·) = [] := by
    rw [List.filter_eq_nil_iff]
    intro w hw
    simp [h w hw]
  rw [named, hnone, List.map_nil]

lemma named_cons_idle (h : isIdle s = true) (ws : List (List Char)) :
    named (s :: ws) = named ws := by
  simp [named, h]

lemma segment_ne (s : List Char) : segment s ≠ .here ∧ segment s ≠ .root := by
  rw [segment]
  split <;> simp

lemma named_ne {c : Component} (h : c ∈ named ws) : c ≠ .here ∧ c ≠ .root := by
  obtain ⟨s, -, rfl⟩ := List.mem_map.mp h
  exact segment_ne s

inductive Leads : List Char → List Char → List Char → Prop
  | root (rest : List Char) : Leads ('/' :: rest) ['/'] rest
  | dot : Leads ['.'] ['.'] []
  | dotted (rest : List Char) : Leads ('.' :: '/' :: rest) ['.'] ('/' :: rest)
  | plain {cs : List Char} : cs.head? ≠ some '/' → Leads cs [] cs

lemma leads (cs : List Char) : ∃ front body, lead cs = (front, body) ∧ Leads cs front body := by
  unfold lead
  split
  · exact ⟨_, _, rfl, .root _⟩
  · exact ⟨_, _, rfl, .dot⟩
  · exact ⟨_, _, rfl, .dotted _⟩
  · next hroot _ _ =>
    refine ⟨_, _, rfl, .plain fun hhead => ?_⟩
    obtain ⟨rest, rfl⟩ := List.head?_eq_some_iff.mp hhead
    exact hroot rest rfl

def namesOf (cs : List Char) : List Component :=
  (if cs.head? = some '/' then [.root] else []) ++ named (pieces '/' cs)

lemma comps_eq (p : Path) : p.comps = namesOf p.text.toList := by
  obtain ⟨front, body, hlead, hleads⟩ := leads p.text.toList
  have hnamed : ((pieces '/' body).filter (!isIdle ·)).map segment = named (pieces '/' body) := rfl
  have hkept : (named (pieces '/' body)).filter (· ≠ .here) = named (pieces '/' body) := by
    rw [List.filter_eq_self]
    intro c hc
    simpa using (named_ne hc).1
  rw [comps, components, hlead, namesOf]
  dsimp only
  rw [hnamed, List.filter_append, hkept]
  generalize p.text.toList = cs at hleads ⊢
  cases hleads with
  | root rest => simp [pieces, named_cons_idle, isIdle]
  | dot => simp [pieces, named, isIdle]
  | dotted rest => simp [pieces, named_cons_idle, isIdle]
  | plain hhead => simp [hhead]

lemma named_rdropWhile (ws : List (List Char)) : named (ws.rdropWhile isIdle) = named ws := by
  have hsplit := List.rdropWhile_append_rtakeWhile (p := isIdle) (l := ws)
  conv_rhs => rw [← hsplit, named_append, named_idle fun w hw => List.mem_rtakeWhile_imp hw]
  rw [List.append_nil]

lemma named_joined (h : ∀ w ∈ ws, '/' ∉ w) : named (pieces '/' (joined '/' ws)) = named ws := by
  cases ws with
  | nil => rfl
  | cons w ws => rw [pieces_joined h (List.cons_ne_nil w ws)]

lemma namesOf_relative (h : cs.head? ≠ some '/') : namesOf cs = named (pieces '/' cs) := by
  rw [namesOf, if_neg h, List.nil_append]

@[simp] lemma namesOf_nil : namesOf [] = [] := rfl

lemma namesOf_slash (hxs : xs ≠ []) (ys : List Char) :
    namesOf (xs ++ '/' :: ys) = namesOf xs ++ named (pieces '/' ys) := by
  rw [namesOf, namesOf, List.head?_append_of_ne_nil _ hxs, pieces_append, named_append,
    List.append_assoc]

lemma namesOf_root (ys : List Char) : namesOf ('/' :: ys) = .root :: named (pieces '/' ys) := by
  simp [namesOf, pieces, named_cons_idle, isIdle]

lemma namesOf_ended (xs ys : List Char) :
    namesOf (xs ++ '/' :: ys) = namesOf (xs ++ ['/']) ++ named (pieces '/' ys) := by
  have hnil : named (pieces '/' []) = [] := rfl
  cases xs with
  | nil => rw [List.nil_append, List.nil_append, namesOf_root, namesOf_root, hnil]; rfl
  | cons x xs =>
    rw [namesOf_slash (List.cons_ne_nil x xs), namesOf_slash (List.cons_ne_nil x xs), hnil,
      List.append_nil]

lemma comps_join (h : (Path.mk name).isAbsolute = false) :
    (base.join name).comps = base.comps ++ (Path.mk name).comps := by
  have hhead : name.toList.head? ≠ some '/' := by simpa [isAbsolute] using h
  rw [comps_eq (Path.mk name), namesOf_relative hhead, comps_eq base, comps_eq, join, h]
  rcases base.text.toList.eq_nil_or_concat' with hb | ⟨xs, c, hb⟩
  · simp [hb, namesOf_relative hhead]
  by_cases hc : c = '/'
  · have htext : (base.text ++ name).toList = xs ++ '/' :: name.toList := by simp [hb, hc]
    simp [hb, hc, htext, namesOf_ended xs name.toList]
  · have hne : xs ++ [c] ≠ [] := by simp
    have htext : (base.text ++ "/" ++ name).toList = (xs ++ [c]) ++ '/' :: name.toList := by
      simp [hb]
    have hnames := namesOf_slash hne name.toList
    simp only [hb, List.getLast?_concat, Option.all_some, beq_iff_eq, hc, htext, hnames, if_false,
      Bool.false_eq_true]

lemma namesOf_dot {ps : List (List Char)} (hslash : ∀ w ∈ ws, '/' ∉ w) (hws : ws <+: [] :: ps) :
    namesOf ('.' :: joined '/' ws) = named ws := by
  have hdot : namesOf ['.'] = [] := by decide
  rcases List.prefix_cons_iff.mp hws with rfl | ⟨rest, rfl, -⟩
  · exact hdot
  rw [named_cons_idle rfl]
  cases rest with
  | nil => exact hdot
  | cons w ws =>
    have hrest := named_joined fun v hv => hslash v (List.mem_cons_of_mem _ hv)
    have hslashed := namesOf_slash (List.cons_ne_nil '.' []) (joined '/' (w :: ws))
    rwa [hdot, hrest] at hslashed

lemma namesOf_prefix {front body : List Char} (hleads : Leads cs front body)
    (hws : ws <+: pieces '/' body) :
    namesOf (front ++ joined '/' ws) =
      (if cs.head? = some '/' then [.root] else []) ++ named ws := by
  have hslash : ∀ w ∈ ws, '/' ∉ w := fun w hw => not_mem_of_mem_pieces (hws.subset hw)
  cases hleads with
  | root rest =>
    rw [List.singleton_append, namesOf_root, named_joined hslash]
    rfl
  | dot => exact namesOf_dot hslash hws
  | dotted rest => exact namesOf_dot hslash hws
  | plain hhead =>
    have hprefix : joined '/' ws <+: cs := by
      have h : joined '/' ws <+: joined '/' (pieces '/' cs) := joined_prefix hws
      rwa [joined_pieces] at h
    have hrelative : (joined '/' ws).head? ≠ some '/' := by
      intro h
      obtain ⟨rest, hrest⟩ := List.head?_eq_some_iff.mp h
      obtain ⟨more, rfl⟩ := hprefix
      rw [hrest] at hhead
      exact hhead rfl
    rw [List.nil_append, namesOf_relative hrelative, named_joined hslash, if_neg hhead,
      List.nil_append]

lemma Leads.append {front body : List Char} (h : Leads cs front body) : front ++ body = cs := by
  cases h <;> rfl

lemma comps_parent (p : Path) : (p.parent?.getD ⟨""⟩).comps = p.comps.dropLast := by
  obtain ⟨front, body, hlead, hleads⟩ := leads p.text.toList
  have hp := namesOf_prefix hleads (List.prefix_refl _)
  rw [joined_pieces, hleads.append, ← named_rdropWhile] at hp
  have hreverse : (pieces '/' body).rdropWhile isIdle =
      ((pieces '/' body).reverse.dropWhile isIdle).reverse := rfl
  rw [comps_eq p, hp, parent?, hlead]
  dsimp only
  split
  · next x rest hrest =>
    rw [hrest, List.reverse_cons] at hreverse
    have hx : isIdle x = false := by
      have h := List.head?_dropWhile_not isIdle (pieces '/' body).reverse
      rw [hrest] at h
      simpa using h
    have hws : rest.reverse.rdropWhile isIdle <+: pieces '/' body := by
      have h : rest.reverse <+: (pieces '/' body).rdropWhile isIdle :=
        hreverse ▸ List.prefix_append _ _
      exact (List.rdropWhile_prefix _ _).trans (h.trans (List.rdropWhile_prefix _ _))
    have hlast : named [x] = [segment x] := by simp [named, hx]
    have hparent := namesOf_prefix hleads hws
    rw [named_rdropWhile, List.rdropWhile, List.reverse_reverse] at hparent
    rw [hreverse, named_append, hlast, ← List.append_assoc, List.dropLast_concat, ← hparent,
      Option.getD_some, comps_eq, String.toList_ofList]
  · next hrest =>
    rw [hrest, List.reverse_nil] at hreverse
    have hnone : (if front = ['.'] then some (Path.mk "") else none).getD ⟨""⟩ = ⟨""⟩ := by
      split <;> rfl
    rw [hreverse, hnone]
    split <;> rfl

lemma namesOf_segment (hs : '/' ∉ s) (hi : isIdle s = false) : namesOf s = [segment s] := by
  have hhead : s.head? ≠ some '/' := by
    intro h
    obtain ⟨rest, rfl⟩ := List.head?_eq_some_iff.mp h
    exact hs List.mem_cons_self
  rw [namesOf_relative hhead, pieces_of_notMem hs]
  simp [named, hi]

lemma segment_text (s : List Char) : (segment s).text.toList = s := by
  rw [segment]
  split
  · next h => simp [h, Component.text]
  · simp [Component.text]

def Settled (c : Component) : Prop := namesOf c.text.toList = [c]

lemma settled_of_mem_comps {c : Component} (h : c ∈ p.comps) : Settled c := by
  rw [comps_eq, namesOf, List.mem_append] at h
  rcases h with h | h
  · split at h
    · rw [List.mem_singleton.mp h]
      rfl
    · cases h
  · obtain ⟨s, hs, rfl⟩ := List.mem_map.mp h
    obtain ⟨hs, hi⟩ := List.mem_filter.mp hs
    rw [Settled, segment_text]
    exact namesOf_segment (not_mem_of_mem_pieces hs) (by simpa using hi)

lemma root_notMem_tail (p : Path) : Component.root ∉ p.comps.tail := by
  have hnamed : Component.root ∉ named (pieces '/' p.text.toList) := fun h => (named_ne h).2 rfl
  rw [comps_eq, namesOf]
  split
  · exact hnamed
  · exact fun h => hnamed (List.mem_of_mem_tail h)

lemma isAbsolute_of_settled {c : Component} (h : Settled c) (hc : c ≠ .root) :
    (Path.mk c.text).isAbsolute = false := by
  by_contra habs
  rw [Bool.not_eq_false, isAbsolute, beq_iff_eq] at habs
  obtain ⟨rest, hrest⟩ := List.head?_eq_some_iff.mp habs
  rw [Settled, hrest, namesOf_root] at h
  exact hc (List.cons.inj h).1.symm

lemma comps_ofComponents {cs : List Component} (h : ∀ c ∈ cs, Settled c)
    (hroot : .root ∉ cs.tail) : (ofComponents cs).comps = cs := by
  induction cs using List.reverseRecOn with
  | nil => rfl
  | append_singleton cs c ih =>
    have hc := h c (by simp)
    have hjoin : ofComponents (cs ++ [c]) = (ofComponents cs).join c.text := by
      simp [ofComponents]
    rw [hjoin]
    cases cs with
    | nil =>
      by_cases habs : (Path.mk c.text).isAbsolute = true
      · rw [join_absolute habs, comps_eq]
        exact hc
      · rw [comps_join (by simpa using habs), comps_eq (Path.mk c.text), hc]
        rfl
    | cons b cs =>
      have hne : c ≠ .root := by
        rintro rfl
        simp at hroot
      rw [comps_join (isAbsolute_of_settled hc hne), comps_eq (Path.mk c.text), hc,
        ih (fun d hd => h d (List.mem_append_left _ hd))
          fun hm => hroot (List.mem_append_left [c] hm)]

lemma comps_plain (p : Path) : p.plain.comps = p.comps :=
  comps_ofComponents (fun _ => settled_of_mem_comps) (root_notMem_tail p)

lemma plain_eq_of_comps (h : p.comps = q.comps) : p.plain = q.plain := congrArg ofComponents h

lemma plain_plain (p : Path) : p.plain.plain = p.plain := plain_eq_of_comps (comps_plain p)

end Path
end Freshen
