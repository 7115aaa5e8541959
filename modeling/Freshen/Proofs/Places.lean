import Freshen.Database.Connection
import Freshen.Proofs.PathNames
import Freshen.Proofs.Writing

/-! Names that lead straight down a disk, and the paths made of them. What a walk comes to has such
names; directories that are added change no walk that came to an end, nor why one failed, unless
something was not found. -/

namespace Freshen

namespace Location

open Text

variable {l : Location}

lemma path_toList (l : Location) :
    l.path.text.toList = '/' :: joined '/' (l.map String.toList) := by
  have hjoined : ∀ ws : List (List Char), ['/'].intercalate ws = joined '/' ws := by
    intro ws
    induction ws with
    | nil => rfl
    | cons w ws ih =>
      cases ws with
      | nil => simp [joined]
      | cons w' ws => simp [joined, ← ih]
  rw [path, String.toList_append, String.toList_intercalate, ← hjoined]
  rfl

lemma isAbsolute_path (l : Location) : l.path.isAbsolute = true := by
  rw [Path.isAbsolute, path_toList]
  rfl

lemma piecesOf_path (hl : l ≠ []) (hs : ∀ s ∈ l, '/' ∉ s.toList) :
    Disk.piecesOf l.path = [] :: l.map String.toList := by
  rw [Disk.piecesOf, path_toList, pieces, if_pos rfl, pieces_joined]
  · simpa using hs
  · simpa using hl

lemma withoutSlashes_path {s : String} (hs : s ≠ "") (hn : '/' ∉ s.toList) :
    (l ++ [s]).path.withoutSlashes = (l ++ [s]).path := by
  obtain ⟨front, hfront⟩ : ∃ front, (l ++ [s]).path.text.toList = front ++ s.toList := by
    rw [path_toList, List.map_append]
    cases l with
    | nil => exact ⟨['/'], rfl⟩
    | cons a l =>
      refine ⟨'/' :: (joined '/' ((a :: l).map String.toList) ++ ['/']), ?_⟩
      rw [joined_append (by simp) (by simp)]
      simp [joined]
  obtain ⟨cs, c, hc⟩ : ∃ cs c, s.toList = cs ++ [c] := by
    have hne : s.toList ≠ [] := fun h => hs (String.toList_eq_nil_iff.mp h)
    exact ⟨_, _, (List.dropLast_append_getLast hne).symm⟩
  have hslash : c ≠ '/' := by
    rintro rfl
    exact hn (by simp [hc])
  have htext : (l ++ [s]).path.text.toList = front ++ cs ++ [c] := by simp [hfront, hc]
  have hkept : (l ++ [s]).path.text.toList.reverse.dropWhile (· = '/') =
      (l ++ [s]).path.text.toList.reverse := by
    rw [htext]
    simp [hslash]
  rw [Path.withoutSlashes, hkept]
  split
  · rfl
  · rw [List.reverse_reverse, String.ofList_toList]

end Location

namespace Disk

variable {d d' : Disk} {p : Path} {l m x : Location} {n : Node} {last : Bool} {s t : String}
  {names : List String} {ps rest : List (List Char)} {r : Progress} {e : OsError} {fuel : Nat}

structure Proper (s : String) : Prop where
  named : Path.isIdle s.toList = false
  notUp : s.toList ≠ ['.', '.']
  noSlash : '/' ∉ s.toList

instance (s : String) : Decidable (Proper s) :=
  decidable_of_iff (Path.isIdle s.toList = false ∧ s.toList ≠ ['.', '.'] ∧ '/' ∉ s.toList)
    ⟨fun h => ⟨h.1, h.2.1, h.2.2⟩, fun h => ⟨h.named, h.notUp, h.noSlash⟩⟩

def Named (l : Location) : Prop := ∀ s ∈ l, Proper s ∧ s.utf8ByteSize ≤ nameLimit

instance (l : Location) : Decidable (Named l) :=
  inferInstanceAs (Decidable (∀ s ∈ l, Proper s ∧ s.utf8ByteSize ≤ nameLimit))

structure WellNamed (d : Disk) : Prop extends Sound d where
  named : ∀ l n, d.node? l = some n → Named l
  here : d.node? d.current = some .directory

def isFileBelow (size : Nat) : Node → Bool
  | .file number => number < size
  | _ => true

lemma wellNamed_of_nodes (hnodes : ∀ e ∈ d.nodes, Named e.1 ∧
      d.node? e.1.dropLast = some .directory ∧ isFileBelow d.bodies.size e.2 = true)
    (hhere : d.node? d.current = some .directory) : d.WellNamed := by
  have hnode : ∀ l n, d.node? l = some n → Named l ∧ d.node? l.dropLast = some .directory ∧
      isFileBelow d.bodies.size n = true := by
    intro l n h
    cases l with
    | nil =>
      obtain rfl := Option.some.inj h
      exact ⟨by simp [Named], h, rfl⟩
    | cons s l => exact hnodes (s :: l, n) (Keyed.mem_of_get? h)
  exact
    { up := fun l n h => (hnode l n h).2.1
      body := fun l number h => by simpa [isFileBelow] using (hnode l _ h).2.2
      named := fun l n h => (hnode l n h).1
      here := hhere }

lemma Sound.above (hs : d.Sound) (h : d.node? (l ++ names) = some n) (hn : names ≠ []) :
    d.node? l = some .directory := by
  induction names using List.reverseRecOn generalizing n with
  | nil => exact (hn rfl).elim
  | append_singleton names s ih =>
    have hup := hs.up _ _ h
    rw [← List.append_assoc, List.dropLast_concat] at hup
    by_cases he : names = []
    · rwa [he, List.append_nil] at hup
    · exact ih hup he

lemma descend_cons (hl : d.node? l = some .directory) (hs : Proper s)
    (rest : List (List Char)) : d.descend last l (s.toList :: rest) =
      if s.utf8ByteSize > nameLimit then .error .nameTooLong
      else match d.node? (l ++ [s]) with
        | some (.link t) =>
          if rest.isEmpty && !last then .ok (.arrived (l ++ [s]))
          else .ok (.linked (startOf l ⟨t⟩) (piecesOf ⟨t⟩ ++ rest))
        | _ => d.descend last (l ++ [s]) rest := by
  rewrite [descend, hl]
  change (if Path.isIdle s.toList then _ else if s.toList = ['.', '.'] then _ else _) = _
  rewrite [hs.named, if_neg Bool.false_ne_true, if_neg hs.notUp, String.ofList_toList]
  rfl

lemma descend_of_node? (hd : d.WellNamed) (h : d.node? (l ++ names) = some n)
    (hlast : last = true → ∀ t, n ≠ .link t) :
    d.descend last l (names.map String.toList) = .ok (.arrived (l ++ names)) := by
  induction names generalizing l with
  | nil => simp [descend]
  | cons s names ih =>
    have hl := hd.above h (by simp)
    obtain ⟨hs, hshort⟩ := hd.named _ _ h s (by simp)
    have hassoc : l ++ s :: names = (l ++ [s]) ++ names := by simp
    rw [List.map_cons, descend_cons hl hs, if_neg (not_lt.mpr hshort)]
    cases names with
    | nil =>
      rw [h]
      split
      · next t ht =>
        have hfalse : last = false := by
          by_contra hne
          exact hlast (by simpa using hne) t (Option.some.inj ht)
        rw [if_pos (by simp [hfalse])]
      · rfl
    | cons s' names =>
      rw [hassoc] at h ⊢
      rw [hd.above h (by simp)]
      exact ih h

lemma arrived_of_descend (hp : ∀ s ∈ names, Proper s)
    (hs : ∀ q, q <+: names → q ≠ [] → (last = false → q ≠ names) →
      ∀ t, d.node? (l ++ q) ≠ some (.link t))
    (h : d.descend last l (names.map String.toList) = .ok r) :
    r = .arrived (l ++ names) ∧ ∀ s ∈ names, s.utf8ByteSize ≤ nameLimit := by
  induction names generalizing l with
  | nil =>
    rw [List.map_nil, descend, Except.ok.injEq] at h
    exact ⟨by simp [h], by simp⟩
  | cons s names ih =>
    have hassoc : l ++ s :: names = (l ++ [s]) ++ names := by simp
    have hl : d.node? l = some .directory := by
      rw [List.map_cons, descend] at h
      split at h
      · cases h
      · assumption
      · cases h
    rw [List.map_cons, descend_cons hl (hp s (by simp))] at h
    split at h
    · cases h
    next hshort =>
    have hnext : d.descend last (l ++ [s]) (names.map String.toList) = .ok r →
        r = .arrived (l ++ s :: names) ∧ ∀ s' ∈ s :: names, s'.utf8ByteSize ≤ nameLimit := by
      intro h
      have hfurther : ∀ q, q <+: names → q ≠ [] → (last = false → q ≠ names) →
          ∀ t, d.node? (l ++ [s] ++ q) ≠ some (.link t) := by
        intro q hq hne hfull t
        rw [List.append_assoc]
        refine hs (s :: q) (List.cons_prefix_cons.mpr ⟨rfl, hq⟩) (by simp) (fun hlast he => ?_) t
        exact hfull hlast (List.cons.inj he).2
      have hrest := ih (fun s' hs' => hp s' (by simp [hs'])) hfurther h
      rw [hassoc]
      exact ⟨hrest.1, List.forall_mem_cons.mpr ⟨not_lt.mp hshort, hrest.2⟩⟩
    split at h
    · next t ht =>
      split at h
      · next hstop =>
        obtain ⟨hempty, -⟩ := Bool.and_eq_true_iff.mp hstop
        obtain rfl : names = [] := by simpa using hempty
        exact ⟨(Except.ok.inj h).symm, by simpa using not_lt.mp hshort⟩
      · next hgo =>
        refine (hs [s] (by simp) (by simp) (fun hlast he => hgo ?_) t ht).elim
        obtain rfl : [] = names := by simpa using he
        simp [hlast]
    · exact hnext h

structure Fits (p : Path) : Prop where
  nonempty : p.text ≠ ""
  noNul : '\x00' ∉ p.text.toList
  short : p.text.utf8ByteSize < pathLimit

lemma walk_of_fits (h : Fits p) (last : Bool) : d.walk last p =
    d.follow last (linkLimit + 1) (startOf d.current p) (piecesOf p) := by
  rw [walk, if_neg h.nonempty, if_neg h.noNul, if_neg (not_le.mpr h.short)]

lemma fits_or_refused (p : Path) : Fits p ∨
    ∃ e, (e = .notFound → p.text = "") ∧ ∀ (d : Disk) (last : Bool), d.walk last p = .error e := by
  by_cases hempty : p.text = ""
  · exact .inr ⟨.notFound, fun _ => hempty, fun d last => by rw [walk, if_pos hempty]⟩
  by_cases hnul : '\x00' ∈ p.text.toList
  · exact .inr ⟨.nulInPath, by simp, fun d last => by rw [walk, if_neg hempty, if_pos hnul]⟩
  by_cases hlong : p.text.utf8ByteSize ≥ pathLimit
  · exact .inr ⟨.nameTooLong, by simp, fun d last => by
      rw [walk, if_neg hempty, if_neg hnul, if_pos hlong]⟩
  · exact .inl ⟨hempty, hnul, not_le.mp hlong⟩

lemma fits_of_walk (h : d.walk last p = .ok l) : Fits p := by
  refine (fits_or_refused p).resolve_right fun hr => ?_
  obtain ⟨e, -, he⟩ := hr
  rw [he] at h
  cases h

lemma walk_ok (h : d.walk last p = .ok l) :
    d.follow last (linkLimit + 1) (startOf d.current p) (piecesOf p) = .ok l := by
  rw [← walk_of_fits (fits_of_walk h), h]

lemma path_ne_empty (l : Location) : l.path.text ≠ "" := by
  intro h
  have htext := l.path_toList
  rw [h] at htext
  cases htext

lemma walk_path (hf : Fits l.path) (hl : l ≠ []) (hp : ∀ s ∈ l, Proper s) (last : Bool) :
    d.walk last l.path =
      match d.descend last [] (l.map String.toList) with
      | .error e => .error e
      | .ok (.arrived m) => .ok m
      | .ok (.linked m ps) => d.follow last linkLimit m ps := by
  have hdescend : d.descend last [] ([] :: l.map String.toList) =
      d.descend last [] (l.map String.toList) := by
    rw [descend]
    rfl
  rewrite [walk_of_fits hf, startOf, if_pos (l.isAbsolute_path),
    l.piecesOf_path hl fun s hs => (hp s hs).noSlash, follow, hdescend]
  rfl

structure Clear (d : Disk) (l : Location) : Prop where
  proper : ∀ s ∈ l, Proper s
  straight : ∀ q, q <+: l → ∀ t, d.node? q ≠ some (.link t)

namespace Clear

lemma nil (d : Disk) : d.Clear [] where
  proper := by simp
  straight q hq t := by
    rw [List.prefix_nil.mp hq]
    simp [node?]

lemma of_prefix (h : d.Clear l) (hm : m <+: l) : d.Clear m where
  proper s hs := h.proper s (hm.subset hs)
  straight q hq := h.straight q (hq.trans hm)

lemma concat (h : d.Clear l) (hs : Proper s) (hn : ∀ t, d.node? (l ++ [s]) ≠ some (.link t)) :
    d.Clear (l ++ [s]) where
  proper s' hs' := by
    rcases List.mem_append.mp hs' with hs' | hs'
    · exact h.proper s' hs'
    · exact List.mem_singleton.mp hs' ▸ hs
  straight q hq := by
    rcases List.prefix_concat_iff.mp hq with rfl | hq
    · exact hn
    · exact h.straight q hq

lemma current (hd : d.WellNamed) : d.Clear d.current where
  proper s hs := (hd.named _ _ hd.here s hs).1
  straight q hq t ht := by
    obtain ⟨names, hnames⟩ := hq
    cases names with
    | nil =>
      rw [List.append_nil] at hnames
      rw [hnames, hd.here] at ht
      cases ht
    | cons s names =>
      have hup := hd.above (hnames ▸ hd.here) (List.cons_ne_nil s names)
      rw [hup] at ht
      cases ht

lemma startOf (h : d.Clear l) (p : Path) : d.Clear (startOf l p) := by
  rw [Disk.startOf]
  split
  · exact nil d
  · exact h

lemma walk_eq (h : d.Clear l) (hs : Proper s) (hlast : last = false ∨ d.Clear (l ++ [s]))
    (hw : d.walk last (l ++ [s]).path = .ok x) :
    x = l ++ [s] ∧ ∀ s' ∈ l ++ [s], s'.utf8ByteSize ≤ nameLimit := by
  have hp : ∀ s' ∈ l ++ [s], Proper s' := by
    simpa [or_imp, forall_and, hs] using h.proper
  rw [walk_path (fits_of_walk hw) (by simp) hp] at hw
  cases hr : d.descend last [] ((l ++ [s]).map String.toList) with
  | error e =>
    rw [hr] at hw
    cases hw
  | ok r =>
    have hstraight : ∀ q, q <+: l ++ [s] → q ≠ [] → (last = false → q ≠ l ++ [s]) →
        ∀ t, d.node? ([] ++ q) ≠ some (.link t) := by
      intro q hq _ hne
      rcases hlast with rfl | hc
      · exact h.straight q ((List.prefix_concat_iff.mp hq).resolve_left (hne rfl))
      · exact hc.straight q hq
    obtain ⟨rfl, hshort⟩ := arrived_of_descend hp hstraight hr
    rw [hr] at hw
    exact ⟨(Except.ok.inj hw).symm, hshort⟩

end Clear

lemma walk_of_node? (hd : d.WellNamed) (hf : Fits l.path) (hl : l ≠ []) (h : d.node? l = some n)
    (last : Bool) (hlast : last = true → ∀ t, n ≠ .link t) : d.walk last l.path = .ok l := by
  rw [walk_path hf hl fun s hs => (hd.named l n h s hs).1,
    descend_of_node? hd (l := []) (by simpa using h) hlast, List.nil_append]

lemma Grows.descend_error (h : Grows d d') (he : d.descend last l ps = .error e)
    (hne : e ≠ .notFound) : d'.descend last l ps = .error e := by
  induction ps generalizing l with
  | nil => cases he
  | cons s rest ih =>
    rw [descend] at he ⊢
    split at he
    · cases he
      exact (hne rfl).elim
    · next hl =>
      rw [h.kept _ _ hl]
      dsimp only
      split at he
      · next hs => rw [if_pos hs, ih he]
      next hs =>
      rw [if_neg hs]
      split at he
      · next hup => rw [if_pos hup, ih he]
      next hup =>
      rw [if_neg hup]
      split at he
      · next hlong =>
        rw [if_pos hlong]
        exact he
      next hlong =>
      rw [if_neg hlong]
      dsimp only at he ⊢
      split at he
      · split at he <;> cases he
      · next hnot =>
        split
        · next t ht => exact (hnot t (h.links _ t ht)).elim
        · exact ih he
    · next n hdir hl =>
      rw [h.kept _ _ hl]
      cases n with
      | directory => exact (hdir rfl).elim
      | _ => exact he

lemma Grows.follow_error (h : Grows d d') (he : d.follow last fuel l ps = .error e)
    (hne : e ≠ .notFound) : d'.follow last fuel l ps = .error e := by
  induction fuel generalizing l ps with
  | zero => exact he
  | succ fuel ih =>
    rw [Disk.follow] at he ⊢
    cases hr : d.descend last l ps with
    | error e' =>
      rw [hr] at he
      cases he
      rw [h.descend_error hr hne]
    | ok r =>
      rw [(h.descends (descends_of_descend hr)).descend_eq]
      rw [hr] at he
      cases r with
      | arrived m => cases he
      | linked m ps => exact ih he

lemma Grows.findEntry_ok (h : Grows d d') (hf : d.findEntry p = .ok (l, n)) :
    d'.findEntry p = .ok (l, n) := by
  obtain ⟨hw, hn⟩ := findEntry_iff.mp hf
  exact findEntry_iff.mpr ⟨h.walk hw, h.kept l n hn⟩

lemma Grows.findEntry_error (h : Grows d d') (hf : d.findEntry p = .error e)
    (hne : e ≠ .notFound) : d'.findEntry p = .error e := by
  rcases fits_or_refused p with hp | hr
  · rw [findEntry, walk_of_fits hp] at hf ⊢
    cases hw : d.follow false (linkLimit + 1) (startOf d.current p) (piecesOf p) with
    | error e' =>
      obtain rfl : e' = e := by simpa [hw, Except.bind] using hf
      rw [h.current, h.follow_error hw hne]
      rfl
    | ok m =>
      simp only [hw, Except.bind, nodeAt] at hf
      split at hf
      · exact (hne (Except.error.inj hf).symm).elim
      · cases hf
  · obtain ⟨e', -, he⟩ := hr
    rw [findEntry, he] at hf ⊢
    exact hf

inductive Progress.Named : Progress → Prop
  | arrived {l : Location} : Disk.Named l → Named (.arrived l)
  | linked {l : Location} {ps : List (List Char)} : Disk.Named l → (∀ s ∈ ps, '/' ∉ s) →
      Named (.linked l ps)

lemma named_nil : Named [] := by simp [Named]

lemma Named.startOf (h : Named l) (p : Path) : Named (startOf l p) := by
  rw [Disk.startOf]
  split
  · exact named_nil
  · exact h

lemma noSlash_piecesOf (p : Path) : ∀ s ∈ piecesOf p, '/' ∉ s :=
  fun _ hs => Text.not_mem_of_mem_pieces hs

lemma Named.enters {c : List Char} (hl : Named l) (hin : d.Enters l c) (hc : '/' ∉ c) :
    Named (l ++ [String.ofList c]) := by
  intro s hs
  rcases List.mem_append.mp hs with hs | hs
  · exact hl s hs
  · obtain rfl := List.mem_singleton.mp hs
    exact ⟨⟨by simpa using hin.named, by simpa using hin.notUp, by simpa using hc⟩, hin.short⟩

lemma Descends.named (h : d.Descends last l ps r) (hl : Named l) (hps : ∀ s ∈ ps, '/' ∉ s) :
    r.Named := by
  induction h with
  | arrived l => exact .arrived hl
  | idle _ _ _ ih => exact ih hl fun s hs => hps s (List.mem_cons_of_mem _ hs)
  | up _ _ ih =>
    exact ih (fun s hs => hl s (List.mem_of_mem_dropLast hs)) fun s hs =>
      hps s (List.mem_cons_of_mem _ hs)
  | name hin _ _ ih =>
    exact ih (hl.enters hin (hps _ List.mem_cons_self)) fun s hs =>
      hps s (List.mem_cons_of_mem _ hs)
  | atLink hin _ _ => exact .arrived (hl.enters hin (hps _ List.mem_cons_self))
  | linked _ _ _ =>
    refine .linked (hl.startOf _) fun s hs => ?_
    rcases List.mem_append.mp hs with hs | hs
    · exact noSlash_piecesOf _ s hs
    · exact hps s (List.mem_cons_of_mem _ hs)

lemma named_of_follow (h : d.follow last fuel l ps = .ok m) (hl : Named l)
    (hps : ∀ s ∈ ps, '/' ∉ s) : Named m := by
  induction fuel generalizing l ps with
  | zero => cases h
  | succ fuel ih =>
    rw [follow] at h
    cases hr : d.descend last l ps with
    | error e => simp [hr] at h
    | ok r =>
      rw [hr] at h
      cases (descends_of_descend hr).named hl hps with
      | arrived hm => exact Except.ok.inj h ▸ hm
      | linked hm hqs => exact ih h hm hqs

lemma WellNamed.walk (hd : d.WellNamed) (h : d.walk last p = .ok l) : Named l :=
  named_of_follow (walk_ok h) ((hd.named _ _ hd.here).startOf p) (noSlash_piecesOf p)

lemma WellNamed.put (hd : d.WellNamed) (hl : d.node? l = none) (hm : Named l)
    (hup : d.node? l.dropLast = some .directory)
    (hn : ∀ number, n = .file number → number < d.bodies.size) (hnl : ∀ t, n ≠ .link t) :
    (d.put l n).WellNamed where
  toSound := hd.toSound.put hl hup hn hnl
  named m k hk := by
    rw [node?_put d (ne_nil_of_node? hl)] at hk
    split at hk
    · next he => exact he ▸ hm
    · exact hd.named m k hk
  here := (grows_put hl hnl).kept _ _ hd.here

lemma WellNamed.setContent (hd : d.WellNamed) (number : Nat) (c : Content) :
    (d.setContent number c).WellNamed where
  toSound := hd.toSound.setContent number c
  named l n h := hd.named l n ((setContent_node? d number c l).symm.trans h)
  here := (grows_setContent d number c).kept _ _ hd.here

lemma WellNamed.newBody (hd : d.WellNamed) (c : Content) (mode : Nat) :
    (d.newBody c mode).2.WellNamed where
  toSound := hd.toSound.newBody c mode
  named l n h := hd.named l n ((newBody_node? d c mode l).symm.trans h)
  here := (newBody_node? d c mode _).trans hd.here

structure Widens (d d' : Disk) : Prop where
  current : d'.current = d.current
  bodies : d'.bodies = d.bodies
  kept : ∀ l n, d.node? l = some n → d'.node? l = some n
  added : ∀ l n, d'.node? l = some n → d.node? l = some n ∨ d.node? l = none ∧ n = .directory

namespace Widens

lemma refl (d : Disk) : Widens d d := ⟨rfl, rfl, fun _ _ h => h, fun _ _ h => .inl h⟩

lemma trans {d'' : Disk} (h : Widens d d') (h' : Widens d' d'') : Widens d d'' where
  current := h'.current.trans h.current
  bodies := h'.bodies.trans h.bodies
  kept l n hn := h'.kept l n (h.kept l n hn)
  added l n hn := by
    rcases h'.added l n hn with hn | ⟨hnone, rfl⟩
    · exact h.added l n hn
    · refine .inr ⟨?_, rfl⟩
      by_contra hsome
      obtain ⟨k, hk⟩ := Option.ne_none_iff_exists'.mp hsome
      rw [h.kept l k hk] at hnone
      cases hnone

lemma node?_eq (h : Widens d d') (hn : d'.node? l ≠ some .directory) :
    d'.node? l = d.node? l := by
  cases h' : d'.node? l with
  | none =>
    cases hd : d.node? l with
    | none => rfl
    | some k => exact h'.symm.trans (h.kept l k hd)
  | some k =>
    rcases h.added l k h' with hk | ⟨-, rfl⟩
    · exact hk.symm
    · exact (hn h').elim

lemma grows (h : Widens d d') : Grows d d' where
  current := h.current
  kept := h.kept
  links l t ht := by rw [← h.node?_eq (by simp [ht]), ht]

lemma content (h : Widens d d') (number : Nat) : d'.content number = d.content number := by
  rw [Disk.content, Disk.content, h.bodies]

end Widens

lemma makeDirectory_widens (hd : d.WellNamed) (h : d.makeDirectory p = .ok d') :
    d'.WellNamed ∧ Widens d d' := by
  rw [makeDirectory] at h
  split at h
  · cases h
  next l hw =>
  split at h
  · cases h
  next hl =>
  split at h
  · next hup =>
    obtain rfl := Except.ok.inj h
    have hnl : ∀ t, Node.directory ≠ .link t := fun t ht => by cases ht
    refine ⟨hd.put hl (hd.walk hw) hup (fun _ hk => by cases hk) hnl, ?_⟩
    refine ⟨rfl, rfl, (grows_put hl hnl).kept, fun m k hk => ?_⟩
    rw [node?_put d (ne_nil_of_node? hl)] at hk
    split at hk
    · next he => exact .inr ⟨he ▸ hl, (Option.some.inj hk).symm⟩
    · exact .inl hk
  · cases h
  · cases h

lemma makeDirectories_widens (hd : d.WellNamed) (h : d.makeDirectories p = .ok d') :
    d'.WellNamed ∧ Widens d d' := by
  revert hd
  refine makeDirectoriesWithin_rel (R := fun d d' => d.WellNamed → d'.WellNamed ∧ Widens d d')
    (fun d hd => ⟨hd, .refl d⟩) ?_ (fun d p d' hm hd => makeDirectory_widens hd hm) h
  intro d d' d'' hfirst hnext hd
  obtain ⟨hd', hw⟩ := hfirst hd
  obtain ⟨hd'', hw'⟩ := hnext hd'
  exact ⟨hd'', hw.trans hw'⟩

end Disk
end Freshen
