import Mathlib.Data.List.TakeDrop
import WorkflowScript.Proofs.Shell.Reader
import WorkflowScript.Shell.ReadWord

namespace WorkflowScript.Shell

def specialMarks : List Char := ['\'', '"', '\\', '$', backtick, '*', '?', '[', openBrace, '~', '#']

def metaMarks : List Char := [' ', '\t', '\n', ';', '&', '|', '(', ')', '<', '>']

def isBare (c : Char) : Bool := !isMeta c && !specialMarks.contains c

def isKept (c : Char) : Bool := c != '"' && c != '\\' && c != '$' && c != backtick

inductive Inside : Chars → Chars → Prop where
  | nil : Inside [] []
  | kept {c : Char} {text value : Chars} (hc : isKept c = true) (h : Inside text value) :
      Inside (c :: text) (c :: value)
  | escaped {c : Char} {text value : Chars} (hc : isKept c = false) (h : Inside text value) :
      Inside ('\\' :: c :: text) (c :: value)
  | backslash {c : Char} {text value : Chars} (hc : isKept c = true) (hbreak : c ≠ '\n')
      (h : Inside text value) : Inside ('\\' :: c :: text) ('\\' :: c :: value)

inductive Written : Chars → Word → Prop where
  | nil : Written [] []
  | bare {c : Char} {text : Chars} {word : Word} (hc : isBare c = true) (h : Written text word) :
      Written (c :: text) (.char c :: word)
  | escaped {c : Char} {text : Chars} {word : Word} (hc : c ≠ '\n') (h : Written text word) :
      Written ('\\' :: c :: text) (.quoted c :: word)
  | single {inside text : Chars} {word : Word} (hinside : '\'' ∉ inside) (h : Written text word) :
      Written ('\'' :: (inside ++ '\'' :: text)) (.ofText inside ++ word)
  | double {inside value text : Chars} {word : Word} (hinside : Inside inside value) (h : Written text word) :
      Written ('"' :: (inside ++ '"' :: text)) (.ofText value ++ word)

theorem Inside.kepts {front text value : Chars} (hfront : ∀ c ∈ front, isKept c = true) (h : Inside text value) :
    Inside (front ++ text) (front ++ value) := by
  induction front with
  | nil => exact h
  | cons c front ih =>
    obtain ⟨hc, hfront⟩ := List.forall_mem_cons.mp hfront
    exact .kept hc (ih hfront)

theorem Written.bares {front text : Chars} {word : Word} (hfront : ∀ c ∈ front, isBare c = true)
    (h : Written text word) :
    Written (front ++ text) (front.map .char ++ word) := by
  induction front with
  | nil => exact h
  | cons c front ih =>
    obtain ⟨hc, hfront⟩ := List.forall_mem_cons.mp hfront
    exact .bare hc (ih hfront)

theorem Written.letters {text : Chars} (h : ∀ c ∈ text, isBare c = true) : Written text (text.map .char) := by
  have hwritten := Written.bares h .nil
  rwa [List.append_nil, List.append_nil] at hwritten

theorem span_append {p : Char → Bool} {front rest : Chars} (hfront : ∀ c ∈ front, p c = true)
    (hrest : ∀ c ∈ rest.head?, p c = false) : (front ++ rest).span p = (front, rest) := by
  rw [List.span_eq_takeWhile_dropWhile, List.takeWhile_append_of_pos hfront, List.dropWhile_append_of_pos hfront]
  cases rest with
  | nil => rw [List.takeWhile_nil, List.dropWhile_nil, List.append_nil]
  | cons c rest =>
    have hc : ¬ p c = true := by rw [hrest c rfl]; exact Bool.false_ne_true
    rw [List.takeWhile_cons_of_neg hc, List.dropWhile_cons_of_neg hc, List.append_nil]

theorem drop_length_takeWhile {α : Type} (p : α → Bool) (items : List α) :
    items.drop (items.takeWhile p).length = items.dropWhile p := by
  have hdrop := @List.drop_left _ (items.takeWhile p) (items.dropWhile p)
  rwa [List.takeWhile_append_dropWhile] at hdrop

section Marks

variable {c : Char}

structure IsBare (c : Char) : Prop where
  isMeta : isMeta c = false
  single : c ≠ '\''
  double : c ≠ '"'
  backslash : c ≠ '\\'
  dollar : c ≠ '$'
  backquote : c ≠ backtick
  star : c ≠ '*'
  question : c ≠ '?'
  bracket : c ≠ '['
  brace : c ≠ openBrace
  tilde : c ≠ '~'
  hash : c ≠ '#'

theorem isBare_iff : isBare c = true ↔ IsBare c := by
  simp only [isBare, specialMarks, Bool.and_eq_true, Bool.not_eq_true', List.contains_eq_mem, List.mem_cons,
    List.not_mem_nil, or_false, decide_eq_false_iff_not, not_or]
  exact ⟨fun ⟨h0, h1, h2, h3, h4, h5, h6, h7, h8, h9, h10, h11⟩ => ⟨h0, h1, h2, h3, h4, h5, h6, h7, h8, h9, h10, h11⟩,
    fun h => ⟨h.1, h.2, h.3, h.4, h.5, h.6, h.7, h.8, h.9, h.10, h.11, h.12⟩⟩

theorem isMeta_iff_mem : isMeta c = true ↔ c ∈ metaMarks := by
  simp [isMeta, isBlank, metaMarks, or_assoc]

theorem isBare_of {p : Char → Bool} (h : p c = true) (hmarks : (metaMarks ++ specialMarks).any p = false) :
    isBare c = true := by
  have hmem : c ∉ metaMarks ++ specialMarks := fun hmem =>
    Bool.false_ne_true (hmarks.symm.trans (List.any_eq_true.mpr ⟨c, hmem, h⟩))
  rw [List.mem_append, not_or, ← isMeta_iff_mem, Bool.not_eq_true] at hmem
  rw [isBare, hmem.1, List.contains_eq_mem, decide_eq_false hmem.2]
  rfl

theorem isKept_iff : isKept c = true ↔ c ≠ '"' ∧ c ≠ '\\' ∧ c ≠ '$' ∧ c ≠ backtick := by
  simp [isKept, and_assoc]

theorem isKept_eq_false_iff : isKept c = false ↔ c = '"' ∨ c = '\\' ∨ c = '$' ∨ c = backtick := by
  simp only [← Bool.not_eq_true, isKept_iff, ne_eq, not_and_or, not_not]

end Marks

namespace Reader

variable {breaks n : Nat} {inner : Mode → Reader Word} {c : Char} {text rest : Chars} {mode : Mode}
  {first later : Word}

theorem Reads.pieces_cons (hends : mode.ends (c :: text) = false)
    (hfirst : Reads breaks (piece (pieces n) mode c text) (c :: text) first rest) {left : Chars}
    (hlater : Reads breaks (pieces n mode) rest later left) :
    Reads breaks (pieces (n + 1) mode) (c :: text) (first ++ later) left := by
  rw [pieces]
  refine .bind .whole ?_
  dsimp only
  rw [if_neg (by rw [hends]; exact Bool.false_ne_true)]
  exact .bind hfirst (.bind hlater (.pure _))

theorem Reads.pieces_stop (hends : mode.ends (c :: text) = true) :
    Reads breaks (pieces (n + 1) mode) (c :: text) [] (c :: text) := by
  rw [pieces]
  refine .bind .whole ?_
  dsimp only
  rw [if_pos hends]
  exact .pure []

section Double

theorem Reads.piece_kept (hc : isKept c = true) :
    Reads breaks (piece inner .double c text) (c :: text) [.quoted c] text := by
  obtain ⟨hdouble, hbackslash, hdollar, hbackquote⟩ := isKept_iff.mp hc
  have hquoted : Mode.double.isQuoted = true := rfl
  have hsingle : Mode.double.singleQuotes = false := rfl
  rw [piece, if_neg hbackslash, if_neg (by simp [hsingle]), if_neg (by simp [hdouble]), if_neg hbackquote,
    if_neg hdollar, if_neg (by simp [hquoted]), if_neg (by simp [Mode.double]), if_neg (by simp [Mode.double])]
  exact .bind (.skip 1) (.pure _)

theorem Reads.piece_escaped (hc : isKept c = false) :
    Reads breaks (piece inner .double '\\' (c :: text)) ('\\' :: c :: text) [.quoted c] text := by
  have hescapable : Mode.double.escapable c = true := by
    rcases isKept_eq_false_iff.mp hc with rfl | rfl | rfl | rfl <;> rfl
  have hbreak : c ≠ '\n' := by
    rintro rfl
    cases hc
  rw [piece, if_pos rfl, escaped]
  · rw [hescapable]
    exact .bind (.skip 2) (.pure _)
  · exact fun h => hbreak h

theorem Reads.piece_backslash (hc : isKept c = true) (hbreak : c ≠ '\n') :
    Reads breaks (piece inner .double '\\' (c :: text)) ('\\' :: c :: text) [.quoted '\\'] (c :: text) := by
  obtain ⟨hdouble, hbackslash, hdollar, hbackquote⟩ := isKept_iff.mp hc
  have hescapable : Mode.double.escapable c = false := by
    simp [Mode.double, Mode.isEscapable, hdouble, hbackslash, hdollar, hbackquote]
  rw [piece, if_pos rfl, escaped]
  · rw [hescapable]
    exact .bind (.skip 1) (.pure _)
  · exact fun h => hbreak h

end Double

theorem Reads.inside {value : Chars} (h : Inside text value) (hn : (text ++ '"' :: rest).length ≤ n) :
    Reads breaks (pieces (n + 1) .double) (text ++ '"' :: rest) (value.map .quoted) ('"' :: rest) := by
  induction h generalizing n with
  | nil => exact .pieces_stop rfl
  | @kept c text value hc h ih =>
    obtain ⟨n, rfl⟩ := Nat.exists_eq_add_of_le' (Nat.one_le_of_lt hn)
    have hends : Mode.double.ends (c :: (text ++ '"' :: rest)) = false := by
      simp [Mode.double, Mode.startsWith, (isKept_iff.mp hc).1]
    exact .pieces_cons hends (.piece_kept hc) (ih (Nat.le_of_succ_le_succ hn))
  | @escaped c text value hc h ih =>
    obtain ⟨n, rfl⟩ := Nat.exists_eq_add_of_le' (Nat.one_le_of_lt hn)
    exact .pieces_cons rfl (.piece_escaped hc) (ih (Nat.le_of_succ_le (Nat.le_of_succ_le_succ hn)))
  | @backslash c text value hc hbreak h ih =>
    obtain ⟨n, rfl⟩ := Nat.exists_eq_add_of_le' (Nat.one_le_of_lt hn)
    obtain ⟨n, rfl⟩ := Nat.exists_eq_add_of_le' (Nat.one_le_of_lt (Nat.le_of_succ_le_succ hn))
    have hends : Mode.double.ends (c :: (text ++ '"' :: rest)) = false := by
      simp [Mode.double, Mode.startsWith, (isKept_iff.mp hc).1]
    have hlater := ih (Nat.le_of_succ_le_succ (Nat.le_of_succ_le_succ hn))
    exact .pieces_cons rfl (.piece_backslash hc hbreak) (.pieces_cons hends (.piece_kept hc) hlater)

section Bare

theorem Reads.piece_bare (hc : isBare c = true) :
    Reads breaks (piece inner (.bare false) c text) (c :: text) [.char c] text := by
  have h := isBare_iff.mp hc
  have hangle : ¬ ((c = '<' ∨ c = '>') ∧ text.head? = some '(' ∧ (Mode.bare false).isQuoted = false) := by
    rintro ⟨rfl | rfl, -⟩
    · exact absurd h.isMeta (by decide)
    · exact absurd h.isMeta (by decide)
  rw [piece, if_neg h.backslash, if_neg (by simp [h.single]), if_neg (by simp [h.double]), if_neg h.backquote,
    if_neg h.dollar, if_neg hangle, if_neg (by simp [Mode.bare]), if_neg (by simp [Mode.bare])]
  exact .bind (.skip 1) (.pure _)

theorem Reads.piece_quoted (hc : c ≠ '\n') :
    Reads breaks (piece inner (.bare false) '\\' (c :: text)) ('\\' :: c :: text) [.quoted c] text := by
  rw [piece, if_pos rfl, escaped]
  · exact .bind (.skip 2) (.pure _)
  · exact fun h => hc h

theorem Reads.piece_single {inside : Chars} (h : '\'' ∉ inside) :
    Reads breaks (piece inner (.bare false) '\'' (inside ++ '\'' :: rest)) ('\'' :: (inside ++ '\'' :: rest))
      (.ofText inside) rest := by
  have hspan : (inside ++ '\'' :: rest).span (· != '\'') = (inside, '\'' :: rest) := by
    refine span_append (fun d hd => bne_iff_ne.mpr fun heq => h (heq ▸ hd)) ?_
    rintro d ⟨⟩
    rfl
  rw [piece, if_neg (by decide), if_pos ⟨rfl, rfl⟩, hspan]
  exact .bind (.setRest _) (.pure _)

theorem Reads.piece_double (h : Reads breaks (inner .double) text later ('"' :: rest)) :
    Reads breaks (piece inner (.bare false) '"' text) ('"' :: text) (.quotes :: later) rest := by
  rw [piece, if_neg (by decide), if_neg (by decide), if_pos ⟨rfl, rfl⟩]
  exact .bind (.skip 1) (.bind h (.bind (.skip 1) (.pure _)))

end Bare

def Ends (rest : Chars) : Prop := ∀ c ∈ rest.head?, isBlank c = true ∨ c = '\n'

theorem Reads.pieces_ends (h : Ends rest) : Reads breaks (pieces (n + 1) (.bare false)) rest [] rest := by
  cases rest with
  | nil => exact .pure []
  | cons c rest =>
    refine .pieces_stop ?_
    rcases h c rfl with hblank | rfl
    · have hangle : c ≠ '<' ∧ c ≠ '>' := by
        constructor <;> rintro rfl <;> exact absurd hblank (by decide)
      simp [Mode.bare, Mode.endsBare, isMeta, hblank, hangle]
    · rfl

theorem Reads.written {word : Word} (h : Written text word) (hends : Ends rest)
    (hn : (text ++ rest).length ≤ n) :
    Reads breaks (pieces (n + 1) (.bare false)) (text ++ rest) word rest := by
  induction h generalizing n with
  | nil => exact .pieces_ends hends
  | @bare c text word hc h ih =>
    obtain ⟨n, rfl⟩ := Nat.exists_eq_add_of_le' (Nat.one_le_of_lt hn)
    have hopen : (Mode.bare false).ends (c :: (text ++ rest)) = false := by
      simp [Mode.bare, Mode.endsBare, (isBare_iff.mp hc).isMeta]
    exact .pieces_cons hopen (.piece_bare hc) (ih (Nat.le_of_succ_le_succ hn))
  | @escaped c text word hc h ih =>
    obtain ⟨n, rfl⟩ := Nat.exists_eq_add_of_le' (Nat.one_le_of_lt hn)
    exact .pieces_cons rfl (.piece_quoted hc) (ih (Nat.le_of_succ_le (Nat.le_of_succ_le_succ hn)))
  | @single inside text word hinside h ih =>
    obtain ⟨n, rfl⟩ := Nat.exists_eq_add_of_le' (Nat.one_le_of_lt hn)
    have hlater : (text ++ rest).length ≤ n := by
      simp only [List.cons_append, List.append_assoc, List.length_cons, List.length_append] at hn ⊢
      omega
    rw [List.cons_append, List.append_assoc, List.cons_append]
    exact .pieces_cons rfl (.piece_single hinside) (ih hlater)
  | @double inside value text word hinside h ih =>
    obtain ⟨n, rfl⟩ := Nat.exists_eq_add_of_le' (Nat.one_le_of_lt hn)
    have hlength : (inside ++ '"' :: (text ++ rest)).length ≤ n := by
      simp only [List.cons_append, List.append_assoc, List.length_cons, List.length_append] at hn ⊢
      omega
    have hlater : (text ++ rest).length ≤ n := by
      simp only [List.length_cons, List.length_append] at hlength ⊢
      omega
    rw [List.cons_append, List.append_assoc, List.cons_append]
    exact .pieces_cons rfl (.piece_double (.inside hinside hlength)) (ih hlater)

theorem Reads.wordIn {word : Word} (h : Written text word) (hends : Ends rest) :
    Reads breaks (Reader.wordIn (.bare false)) (text ++ rest) word rest :=
  .bind .whole (.written h hends (Nat.le_succ _))

theorem Reads.wordIn_ends (h : Ends rest) : Reads breaks (Reader.wordIn (.bare false)) rest [] rest :=
  .bind .whole (.pieces_ends h)

end Reader

end WorkflowScript.Shell
