import WorkflowScript.Proofs.Template.Grammar

namespace WorkflowScript.Placeholder

open Text

@[ext] structure Site (text : List Char) where
  before : List Char
  placeholder : Occurrence
  after : List Char
  text_eq : text = before ++ (placeholder.whole ++ after)
  written : Written placeholder

section Dollar

theorem notMem_of_spelling {word scope : List Char} (h : Spelling word scope) {c : Char}
    (hc : word.any (fun letter => spells letter c) = false) : c ∉ scope := by
  induction h with
  | nil => exact List.not_mem_nil
  | @cons letter d word scope hd _ ih =>
    obtain ⟨hletter, hword⟩ := Bool.or_eq_false_iff.mp hc
    rw [List.mem_cons, not_or]
    refine ⟨?_, ih hword⟩
    rintro rfl
    exact Bool.false_ne_true (hletter.symm.trans hd)

theorem exists_dollar_cons {o : Occurrence} (h : Written o) :
    ∃ tail, o.whole = '$' :: tail ∧ '$' ∉ tail := by
  cases h with
  | @intro a scope b c name d ha hb hc hd hscope hne hname =>
    refine ⟨_, rfl, ?_⟩
    have hscope : '$' ∉ scope := hscope.elim (notMem_of_spelling · (by decide))
      (notMem_of_spelling · (by decide))
    have hname : '$' ∉ name := fun hmem => absurd (hname _ hmem) (by decide)
    have hgap : ∀ gap : List Char, allBlank gap = true → '$' ∉ gap := fun _ hblank =>
      notMem_of_allBlank hblank (by decide)
    simp [hscope, hname, hgap a ha, hgap b hb, hgap c hc, hgap d hd, closing]

theorem whole_ne_nil {o : Occurrence} (h : Written o) : o.whole ≠ [] := by
  obtain ⟨tail, htail, -⟩ := exists_dollar_cons h
  rw [htail]
  exact List.cons_ne_nil _ _

theorem recognise_faithful : Recogniser.Faithful recognise := by
  intro text o h
  obtain ⟨hwritten, hrest⟩ := recognise_eq_some_iff.mp h
  exact ⟨whole_ne_nil hwritten, hrest⟩

theorem recognise_append {o : Occurrence} (h : Written o) (rest : List Char) :
    recognise (o.whole ++ rest) = some o := recognise_eq_some_iff.mpr ⟨h, rest, rfl⟩

end Dollar

namespace Site

variable {text : List Char}

def start (site : Site text) : Nat := site.before.length

def stop (site : Site text) : Nat := site.before.length + site.placeholder.whole.length

theorem eq_of_before_eq {s t : Site text} (h : s.before = t.before) : s = t := by
  have hrest : s.placeholder.whole ++ s.after = t.placeholder.whole ++ t.after := by
    have htext := s.text_eq.symm.trans t.text_eq
    rw [h] at htext
    exact List.append_cancel_left htext
  have hsame : s.placeholder = t.placeholder := by
    have hs := recognise_append s.written s.after
    rw [hrest, recognise_append t.written t.after] at hs
    exact (Option.some.inj hs).symm
  rw [hsame] at hrest
  exact Site.ext h hsame (List.append_cancel_left hrest)

theorem stop_le_start_of_lt {s t : Site text} (h : s.start < t.start) : s.stop ≤ t.start := by
  by_contra hover
  have htext := s.text_eq.symm.trans t.text_eq
  obtain ⟨gap, hgap⟩ : s.before <+: t.before :=
    List.prefix_of_prefix_length_le ⟨_, htext⟩ (List.prefix_append _ _) h.le
  rw [← hgap, List.append_assoc] at htext
  have hrest := List.append_cancel_left htext
  have hinside : gap.length < s.placeholder.whole.length := by
    simp only [stop, start, ← hgap, List.length_append] at hover
    omega
  obtain ⟨inner, hwhole⟩ : gap <+: s.placeholder.whole :=
    List.prefix_of_prefix_length_le ⟨_, hrest.symm⟩ (List.prefix_append _ _) hinside.le
  rw [← hwhole, List.append_assoc] at hrest
  have hinner := List.append_cancel_left hrest
  -- the second placeholder starts inside the first one, with a `$` that is not its first
  obtain ⟨tail, htail, hdollar⟩ := exists_dollar_cons s.written
  obtain ⟨tail', htail', -⟩ := exists_dollar_cons t.written
  cases gap with
  | nil => simp [start, ← hgap] at h
  | cons g gap =>
    cases inner with
    | nil => simp [← hwhole] at hinside
    | cons c inner =>
      rw [htail, List.cons_append, List.cons.injEq] at hwhole
      rw [htail', List.cons_append, List.cons_append, List.cons.injEq] at hinner
      apply hdollar
      rw [← hwhole.2, hinner.1]
      simp

theorem eq_or_apart (s t : Site text) : s = t ∨ s.stop ≤ t.start ∨ t.stop ≤ s.start := by
  rcases Nat.lt_trichotomy s.start t.start with h | h | h
  · exact .inr (.inl (stop_le_start_of_lt h))
  · refine .inl (eq_of_before_eq ?_)
    have htext := s.text_eq.symm.trans t.text_eq
    exact (List.append_inj htext h).1
  · exact .inr (.inr (stop_le_start_of_lt h))

end Site

section Pieces

variable {text : List Char}

theorem exists_site_of_split {front back : List Piece} {o : Occurrence}
    (h : pieces recognise text = front ++ .occurrence o :: back) :
    ∃ site : Site text, site.before = front.flatMap Piece.source ∧ site.placeholder = o ∧
      site.after = back.flatMap Piece.source := by
  have hsource := source_pieces recognise_faithful text
  rw [h, List.flatMap_append, List.flatMap_cons] at hsource
  have hmem : o ∈ occurrences recognise text :=
    List.mem_filterMap.mpr ⟨.occurrence o, by simp [h], rfl⟩
  obtain ⟨rest, hrest⟩ := recognise_of_mem_occurrences hmem
  exact ⟨⟨_, o, _, hsource.symm, (recognise_eq_some_iff.mp hrest).1⟩, rfl, rfl, rfl⟩

theorem exists_split_of_site (site : Site text) :
    ∃ front back, pieces recognise text = front ++ .occurrence site.placeholder :: back ∧
      front.flatMap Piece.source = site.before ∧ back.flatMap Piece.source = site.after := by
  induction text using pieces_induction recognise_faithful with
  | nil =>
    have hnil := site.text_eq
    simp only [List.nil_eq, List.append_eq_nil_iff] at hnil
    exact absurd hnil.2.1 (whole_ne_nil site.written)
  | occurrence o rest h ih =>
    have hwritten := (recognise_eq_some_iff.mp h).1
    have hpieces := pieces_append (whole_ne_nil hwritten) h
    let first : Site (o.whole ++ rest) := ⟨[], o, rest, rfl, hwritten⟩
    rcases Nat.eq_zero_or_pos site.start with hzero | hpos
    · obtain rfl : site = first := Site.eq_of_before_eq (List.length_eq_zero_iff.mp hzero)
      exact ⟨[], pieces recognise rest, hpieces, rfl, source_pieces recognise_faithful rest⟩
    · have hstop : first.stop ≤ site.start := Site.stop_le_start_of_lt hpos
      obtain ⟨gap, hgap⟩ : o.whole <+: site.before :=
        List.prefix_of_prefix_length_le ⟨rest, site.text_eq⟩ (List.prefix_append _ _)
          (by simpa [first, Site.stop, Site.start] using hstop)
      have hrest : rest = gap ++ (site.placeholder.whole ++ site.after) := by
        have htext := site.text_eq
        rw [← hgap, List.append_assoc] at htext
        exact List.append_cancel_left htext
      obtain ⟨front, back, hsplit, hfront, hback⟩ :=
        ih ⟨gap, site.placeholder, site.after, hrest, site.written⟩
      refine ⟨.occurrence o :: front, back, by rw [hpieces, hsplit]; rfl, ?_, hback⟩
      rw [List.flatMap_cons, hfront, ← hgap]
      rfl
  | plain c text h ih =>
    have hpieces := pieces_cons_of_none h
    obtain ⟨before, o, after, htext, hwritten⟩ := site
    cases before with
    | nil =>
      rw [htext, List.nil_append, recognise_append hwritten] at h
      cases h
    | cons d before =>
      obtain ⟨rfl, hrest⟩ := List.cons.inj htext
      obtain ⟨front, back, hsplit, hfront, hback⟩ := ih ⟨before, o, after, hrest, hwritten⟩
      refine ⟨.plain c :: front, back, by rw [hpieces, hsplit]; rfl, ?_, hback⟩
      rw [List.flatMap_cons, hfront]
      rfl

theorem mem_front_iff {front back : List Piece} {piece : Piece} {o : Occurrence}
    (h : pieces recognise text = front ++ piece :: back) :
    .occurrence o ∈ front ↔ ∃ site : Site text, site.placeholder = o ∧
      site.start < (front.flatMap Piece.source).length := by
  constructor
  · intro hmem
    obtain ⟨first, second, rfl⟩ := List.append_of_mem hmem
    rw [List.append_assoc, List.cons_append] at h
    obtain ⟨site, hbefore, rfl, -⟩ := exists_site_of_split h
    refine ⟨site, rfl, ?_⟩
    have hpos := List.length_pos_of_ne_nil (whole_ne_nil site.written)
    simp only [Site.start, hbefore, List.flatMap_append, List.flatMap_cons, List.length_append,
      Piece.source]
    omega
  · rintro ⟨site, rfl, hlt⟩
    obtain ⟨first, second, hsplit, hfirst, -⟩ := exists_split_of_site site
    rw [Site.start, ← hfirst] at hlt
    rcases List.append_eq_append_iff.mp (h.symm.trans hsplit) with ⟨gap, hgap, -⟩ | ⟨gap, hgap, hrest⟩
    · rw [hgap, List.flatMap_append, List.length_append] at hlt
      omega
    · cases gap with
      | nil => simp [hgap] at hlt
      | cons x gap =>
        rw [List.cons_append, List.cons.injEq] at hrest
        rw [hgap, hrest.1]
        simp

end Pieces

end WorkflowScript.Placeholder
