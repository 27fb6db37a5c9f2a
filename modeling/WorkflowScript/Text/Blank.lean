namespace WorkflowScript.Text

def isBlank (c : Char) : Bool :=
  let n := c.toNat
  (9 ≤ n && n ≤ 13) || n == 0x20 || n == 0x85 || n == 0xA0 || n == 0x1680 ||
    (0x2000 ≤ n && n ≤ 0x200A) || n == 0x2028 || n == 0x2029 || n == 0x202F || n == 0x205F ||
    n == 0x3000

theorem isBlank_of_isWhitespace {c : Char} (h : c.isWhitespace = true) : isBlank c = true := by
  simp only [Char.isWhitespace, Bool.or_eq_true, decide_eq_true_eq] at h
  rcases h with ((rfl | rfl) | rfl) | rfl <;> rfl

def allBlank (text : List Char) : Bool := text.all isBlank

def trimStart (text : List Char) : List Char := text.dropWhile isBlank

def trimEnd : List Char → List Char
  | [] => []
  | c :: text =>
    match trimEnd text with
    | [] => if isBlank c then [] else [c]
    | kept => c :: kept

def trim (text : List Char) : List Char := trimEnd (trimStart text)

theorem trimEnd_eq_nil_iff (text : List Char) : trimEnd text = [] ↔ allBlank text = true := by
  induction text with
  | nil => simp [trimEnd, allBlank]
  | cons c text ih =>
    rw [trimEnd]
    cases h : trimEnd text with
    | nil => simp_all [allBlank]
    | cons d kept => simp_all [allBlank]

theorem trimStart_eq_nil_iff (text : List Char) : trimStart text = [] ↔ allBlank text = true := by
  induction text with
  | nil => simp [trimStart, allBlank]
  | cons c text ih =>
    by_cases h : isBlank c = true
    · have hs : trimStart (c :: text) = trimStart text := by simp [trimStart, List.dropWhile, h]
      rw [hs, ih]
      simp [allBlank, h]
    · simp [trimStart, List.dropWhile, allBlank, h]

theorem allBlank_trimStart (text : List Char) :
    allBlank (trimStart text) = allBlank text := by
  induction text with
  | nil => rfl
  | cons c text ih =>
    rw [trimStart, List.dropWhile_cons]
    split
    · next hblank => exact ih.trans (by simp [allBlank, hblank])
    · rfl

theorem allBlank_trimEnd (text : List Char) :
    allBlank (trimEnd text) = allBlank text := by
  induction text with
  | nil => rfl
  | cons c text ih =>
    have hcons : allBlank (c :: text) = (isBlank c && allBlank (trimEnd text)) := by
      rw [ih]
      rfl
    rw [trimEnd, hcons]
    cases trimEnd text with
    | nil => cases hc : isBlank c <;> simp [allBlank, hc]
    | cons d kept => rfl

theorem trim_eq_nil_iff (text : List Char) : trim text = [] ↔ allBlank text = true := by
  rw [trim, trimEnd_eq_nil_iff, allBlank_trimStart]

end WorkflowScript.Text
