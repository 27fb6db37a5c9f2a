import WorkflowScript.Proofs.Yaml.Plain
import WorkflowScript.Yaml.Lexer

namespace WorkflowScript.Yaml.Lexer

structure Stop where
  text : List Char
  column : Nat
  tokens : List Token
  blocks : List Nat
  keyAllowed : Bool

def Stop.lexer (stop : Stop) (offset line : Nat) : Lexer :=
  ⟨⟨stop.text, offset, line, stop.column⟩, stop.tokens, stop.blocks, [none], stop.keyAllowed⟩

def settled (lexer : Lexer) : Lexer :=
  lexer.skipSpaces.closeBlocks (· ≤ lexer.skipSpaces.cursor.column)

def Settles (stop next : Stop) : Prop :=
  ∀ offset line, ∃ offset' line', (stop.lexer offset line).settled = next.lexer offset' line'

def Reaches (steps : Nat) (stop next : Stop) : Prop :=
  ∀ offset line, ∃ offset' line', ∀ n,
    (stop.lexer offset line).readAll (n + steps) = (next.lexer offset' line').readAll n

inductive Starts : List Char → Prop
  | plain {c : Char} {text : List Char} (hc : isIndicator c = false) : Starts (c :: text)
  | mark {c d : Char} {text : List Char} (hc : c = '-' ∨ c = '?' ∨ c = ':') (hd : isGap d = false) :
      Starts (c :: d :: text)

structure Unquoted (line : List Char) : Prop where
  words : Plain.OneLine line
  starts : Starts line

variable {lexer lexer' : Lexer} {stop next last : Stop} {steps steps' n : Nat}
  {line more tail : List Char} {tokens : List Token} {blocks : List Nat} {offset row column : Nat}
  {allowed broke : Bool}

theorem Reaches.trans (h : Reaches steps stop next) (h' : Reaches steps' next last) :
    Reaches (steps' + steps) stop last := by
  intro offset line
  obtain ⟨offset', line', hnext⟩ := h offset line
  obtain ⟨offset'', line'', hlast⟩ := h' offset' line'
  refine ⟨offset'', line'', fun n => ?_⟩
  rw [← Nat.add_assoc, hnext, hlast]

theorem Starts.head?_ne (h : Starts line) : line.head? ≠ some '#' := by
  cases h with
  | plain hc =>
    rintro ⟨⟩
    cases hc
  | mark hc =>
    rintro ⟨⟩
    simp at hc

theorem Unquoted.word (hword : Plain.IsWord line) (hstart : line.head?.any (!isIndicator ·) = true) :
    Unquoted line := by
  refine ⟨.word hword, ?_⟩
  cases line with
  | nil => cases hstart
  | cons c line => exact .plain (by simpa using hstart)

theorem dropStaleKeys_of_none (lexer : Lexer) (h : lexer.keys = [none]) : lexer.dropStaleKeys = .ok lexer := by
  obtain ⟨cursor, tokens, blocks, keys, allowed⟩ := lexer
  cases h
  rfl

theorem readAll_step {fresh ready : Lexer} {c : Char} {text : List Char}
    (hfresh : lexer.skipSpaces.dropStaleKeys = .ok fresh)
    (hready : fresh.closeBlocks (· ≤ fresh.cursor.column) = ready) (hrest : ready.cursor.rest = c :: text) :
    lexer.readAll (n + 1) = ready.token c text >>= readAll n := by
  subst hready
  rw [readAll, hfresh]
  simp only [bind, Except.bind, hrest]

theorem readAll_of_settled {offset' row' : Nat} {c : Char} {text : List Char}
    (hsettled : (stop.lexer offset row).settled = next.lexer offset' row') (htext : next.text = c :: text) :
    (stop.lexer offset row).readAll (n + 1) = (next.lexer offset' row').token c text >>= readAll n :=
  readAll_step (dropStaleKeys_of_none (stop.lexer offset row).skipSpaces rfl) hsettled htext

theorem isIndicator_eq_false_iff {c : Char} : isIndicator c = false ↔
    c ∉ ['-', '?', ':', ',', '[', ']', '\x7b', '\x7d', '#', '&', '*', '!', '|', '>', '\x27', '\x22', '%', '@',
      '\x60'] := by
  simp [isIndicator, Plain.isFlowIndicator, and_assoc]

theorem token_of_starts (h : Starts line) (hflow : lexer.inFlow = false)
    (hmark : lexer.cursor.atDocumentMark? = none) {c : Char} {text : List Char}
    (hline : line ++ tail = c :: text) (hc : isGap c = false) :
    lexer.token c text = lexer.plainScalar := by
  cases h with
  | @plain d rest hd =>
    obtain ⟨rfl, rfl⟩ := List.cons.inj hline
    have hplain : startsPlain false d (rest ++ tail) = true := by simp [startsPlain, hc, hd]
    rw [isIndicator_eq_false_iff] at hd
    simp only [List.mem_cons, not_or] at hd
    simp [token, hmark, hflow, hplain, hd]
  | @mark d e rest hd he =>
    obtain ⟨rfl, rfl⟩ := List.cons.inj hline
    have hgap : startsGap (e :: (rest ++ tail)) = false := he
    have hspace : isSpace e = false := isSpace_of_isGap he
    rcases hd with rfl | rfl | rfl <;>
      simp [token, hmark, hflow, hgap, startsPlain, isIndicator, Plain.isFlowIndicator, hspace]

section Mark

theorem documentMark?_of_gap {c : Char} {text : List Char} (h : startsGap text = true) :
    documentMark? (c :: text) = none := by
  match text with
  | [] => rfl
  | [_] => rfl
  | d :: _ :: _ =>
    rw [documentMark?, if_neg]
    simp only [Bool.and_eq_true, Bool.or_eq_true, beq_iff_eq]
    rintro ⟨⟨⟨hc, hd⟩, -⟩, -⟩
    have hgap : isGap d = true := h
    rcases hc with rfl | rfl
    · rw [← hd] at hgap
      cases hgap
    · rw [← hd] at hgap
      cases hgap

theorem atDocumentMark?_of_none {cursor : Cursor} (h : documentMark? cursor.rest = none) :
    cursor.atDocumentMark? = none := by
  rw [Cursor.atDocumentMark?, h, ite_self]

theorem documentMark?_of_ne {c : Char} (hdash : c ≠ '-') (hdot : c ≠ '.') (text : List Char) :
    documentMark? (c :: text) = none := by
  match text with
  | [] => rfl
  | [_] => rfl
  | _ :: _ :: _ =>
    rw [documentMark?, if_neg]
    simp [hdash, hdot]

end Mark

section Spaces

theorem spacesFrom_stop {inFlow allowed : Bool} {count : Nat} {c : Char} {text : List Char}
    (hc : isGap c = false) (hmark : c ≠ '#') :
    spacesFrom inFlow allowed false false count (c :: text) = (count, allowed) := by
  have hspace := isSpace_of_isGap hc
  simp only [isSpace, Bool.or_eq_false_iff, beq_eq_false_iff_ne] at hspace
  rw [spacesFrom, if_neg (by rw [isBreak_of_isGap hc]; simp), if_neg (by simpa using hmark),
    if_neg (by simp [hspace])]

theorem Unquoted.spacesFrom_eq (h : Unquoted line) (rest : List Char) (allowed : Bool) (count : Nat) :
    spacesFrom false allowed false false count (line ++ rest) = (count, allowed) := by
  obtain ⟨c, tail, rfl, hc⟩ := h.words.exists_cons
  have hmark : c ≠ '#' := fun heq => h.starts.head?_ne (congrArg some heq)
  exact spacesFrom_stop hc hmark

theorem settles_of_spacesFrom {count : Nat}
    (h : spacesFrom false stop.keyAllowed false (stop.column == 0) 0 stop.text = (count, allowed))
    (hnext : ∀ offset row, ∃ offset' row',
      closeBlocks (· ≤ ((stop.lexer offset row).cursor.skip count).column)
        (((stop.lexer offset row).advance count).allowKey allowed) = next.lexer offset' row') :
    Settles stop next := by
  intro offset row
  have hskip : (stop.lexer offset row).skipSpaces =
      ((stop.lexer offset row).advance count).allowKey allowed := by
    have hspaces : spacesFrom (stop.lexer offset row).inFlow (stop.lexer offset row).keyAllowed false
        ((stop.lexer offset row).cursor.column == 0) 0 (stop.lexer offset row).cursor.rest =
          (count, allowed) := h
    rw [skipSpaces, hspaces]
    rfl
  rw [settled, hskip]
  exact hnext offset row

end Spaces

section Key

def opens (column : Nat) (blocks : List Nat) : Bool := blocks.head?.all (· < column)

def withBlock (column : Nat) (blocks : List Nat) : List Nat :=
  if opens column blocks then column :: blocks else blocks

def openedBy (token : Token) (column : Nat) (blocks : List Nat) (tokens : List Token) : List Token :=
  if opens column blocks then token :: tokens else tokens

def depth (blocks : List Nat) : Nat := blocks.head?.elim 0 (· + 1)

theorem indent_eq_depth (lexer : Lexer) : lexer.indent = depth lexer.blocks := by
  obtain ⟨cursor, tokens, blocks, keys, allowed⟩ := lexer
  cases blocks <;> rfl

theorem depth_le (h : blocks.head?.all (· ≤ column) = true) : depth blocks ≤ column + 1 := by
  cases blocks with
  | nil => exact Nat.zero_le _
  | cons b blocks => simpa [depth] using h

theorem plainScalar_of_read {result : Plain.Result} (hopen : lexer.openKey = .ok lexer')
    (hread : Plain.read lexer'.inFlow (depth lexer'.blocks) lexer'.cursor = .ok result) :
    lexer.plainScalar = .ok (({ lexer' with cursor := result.cursor }.emit
      (.scalar result.text .plain)).allowKey result.brokeLine) := by
  rw [← indent_eq_depth] at hread
  rw [plainScalar, hopen]
  change (Plain.read lexer'.inFlow lexer'.indent lexer'.cursor >>= _) = _
  rw [hread]
  rfl

theorem closeBlocks_of_reached {reached : Nat → Bool} (h : lexer.blocks.head?.all reached = true) :
    lexer.closeBlocks reached = lexer := by
  obtain ⟨cursor, tokens, blocks, keys, allowed⟩ := lexer
  rw [closeBlocks]
  split
  · rfl
  · cases blocks with
    | nil => rfl
    | cons b blocks =>
      have hb : reached b = true := h
      simp [closeBlocksFrom, hb]

theorem readAll_colon (key : OpenKey) (hmore : startsGap more = true) (hrow : row ≤ key.line)
    (hreach : offset ≤ key.offset + keyReach) (hblocks : blocks.head?.all (· ≤ column) = true) :
    readAll (n + 1) ⟨⟨':' :: more, offset, row, column⟩, tokens, blocks, [some key], false⟩ =
      (value ⟨⟨':' :: more, offset, row, column⟩, tokens, blocks, [some key], false⟩ >>= readAll n) := by
  have hfresh : isStale ⟨':' :: more, offset, row, column⟩ key = false := by
    simp [isStale, hrow, hreach]
  have hskip : skipSpaces ⟨⟨':' :: more, offset, row, column⟩, tokens, blocks, [some key], false⟩ =
      ⟨⟨':' :: more, offset, row, column⟩, tokens, blocks, [some key], false⟩ := by
    simp [skipSpaces, spacesFrom, isBreak, byteOrderMark, lineSeparator, paragraphSeparator, Cursor.skip]
  have hkeys : dropStaleKeys ⟨⟨':' :: more, offset, row, column⟩, tokens, blocks, [some key], false⟩ =
      .ok ⟨⟨':' :: more, offset, row, column⟩, tokens, blocks, [some key], false⟩ := by
    simp [dropStaleKeys, freshKeys, hfresh, Except.map]
  have hmark : Cursor.atDocumentMark? ⟨':' :: more, offset, row, column⟩ = none :=
    atDocumentMark?_of_none (documentMark?_of_ne (by decide) (by decide) more)
  rw [readAll_step (by rw [hskip, hkeys]) (closeBlocks_of_reached hblocks) rfl]
  simp [token, hmark, hmore]

theorem emitAt_length (front tokens : List Token) (blocks : List Nat) (allowed : Bool) (token : Token)
    (cursor : Cursor) (keys : List (Option OpenKey)) :
    emitAt tokens.length token ⟨cursor, front ++ tokens, blocks, keys, allowed⟩ =
      ⟨cursor, front ++ token :: tokens, blocks, keys, allowed⟩ := by
  simp [emitAt]

theorem openBlock_length (column : Nat) (front tokens : List Token) (blocks : List Nat) (allowed : Bool)
    (token : Token) (cursor : Cursor) (key : Option OpenKey) :
    openBlock column tokens.length token ⟨cursor, front ++ tokens, blocks, [key], allowed⟩ =
      ⟨cursor, front ++ openedBy token column blocks tokens, withBlock column blocks, [key], allowed⟩ := by
  have hopens : (indent ⟨cursor, front ++ tokens, blocks, [key], allowed⟩ ≤ column) ↔
      opens column blocks = true := by
    rw [indent_eq_depth]
    cases blocks with
    | nil => simp [depth, opens]
    | cons b blocks => exact (Nat.succ_le_iff).trans (by simp [opens])
  rw [openBlock, openedBy, withBlock]
  by_cases h : opens column blocks = true
  · rw [if_pos (by simp [inFlow, hopens, h]), if_pos h, if_pos h, emitAt_length]
  · rw [if_neg (by simp [inFlow, hopens, h]), if_neg h, if_neg h]

theorem value_key (key : OpenKey) (hplace : key.place = tokens.length) (scalar : Token) :
    value ⟨⟨':' :: more, offset, row, column⟩, scalar :: tokens, blocks, [some key], false⟩ =
      .ok ⟨⟨more, offset + 1, row, column + 1⟩,
        .value :: scalar :: .key :: openedBy .blockMapping key.column blocks tokens,
        withBlock key.column blocks, [none], false⟩ := by
  have hkey := emitAt_length [scalar] tokens blocks false .key ⟨':' :: more, offset, row, column⟩ [some key]
  have hblock := openBlock_length key.column [scalar, .key] tokens blocks false .blockMapping
    ⟨':' :: more, offset, row, column⟩ (some key)
  simp only [List.cons_append, List.nil_append] at hkey hblock
  simp only [value, hplace, hkey, hblock]
  rfl

structure Fits (line rest : List Char) (column : Nat) (blocks : List Nat) : Prop extends Unquoted line where
  blocks : blocks.head?.all (· ≤ column) = true
  document : column ≠ 0 ∨ documentMark? (line ++ rest) = none

namespace Fits

variable {rest : List Char} (h : Fits line rest column blocks)
include h

theorem atDocumentMark? (offset row : Nat) :
    Cursor.atDocumentMark? ⟨line ++ rest, offset, row, column⟩ = none := by
  rcases h.document with hcolumn | hmark
  · exact if_neg hcolumn
  · exact atDocumentMark?_of_none hmark

theorem token_eq (lexer : Lexer) {offset row : Nat} (hlexer : lexer.cursor = ⟨line ++ rest, offset, row, column⟩)
    (hflow : lexer.inFlow = false) : ∃ c text, line ++ rest = c :: text ∧
      lexer.token c text = lexer.plainScalar := by
  obtain ⟨c, text, hline, hc⟩ := h.words.exists_cons
  have hcons : line ++ rest = c :: (text ++ rest) := by rw [hline, List.cons_append]
  have hmark := hlexer ▸ h.atDocumentMark? offset row
  exact ⟨c, text ++ rest, hcons, token_of_starts h.starts hflow hmark hcons hc⟩

theorem read_eq (hstop : Plain.run false rest = .ok []) (offset row : Nat) : ∃ m, rest.length ≤ m ∧
    Plain.read false (depth blocks) ⟨line ++ rest, offset, row, column⟩ =
      Plain.afterRun (depth blocks) m line
        ⟨rest, offset + Text.bytes line, row, column + line.length⟩ :=
  Plain.read_oneLine h.words hstop (h.atDocumentMark? offset row) h.starts.head?_ne (depth_le h.blocks)

end Fits

theorem reaches_key (hsettles : Settles stop ⟨line ++ ':' :: more, column, tokens, blocks, true⟩)
    (hfits : Fits line (':' :: more) column blocks) (hmore : startsGap more = true)
    (hreach : Text.bytes line ≤ keyReach) :
    Reaches 2 stop ⟨more, column + line.length + 1,
      .value :: .scalar line .plain :: .key :: openedBy .blockMapping column blocks tokens,
      withBlock column blocks, false⟩ := by
  intro offset row
  obtain ⟨offset', row', hsettled⟩ := hsettles offset row
  let next : Stop := ⟨line ++ ':' :: more, column, tokens, blocks, true⟩
  let required : Bool := (next.lexer offset' row').indent == column + 1
  let key : OpenKey := ⟨required, tokens.length, offset', row', column⟩
  have hstop : Plain.run false (':' :: more) = .ok [] := by
    rw [Plain.run, if_neg (by decide), if_neg (by simp), if_pos (by simp [hmore])]
  obtain ⟨c, text, hcons, htoken⟩ := hfits.token_eq (next.lexer offset' row') rfl rfl
  obtain ⟨m, -, hread⟩ := hfits.read_eq hstop offset' row'
  rw [Plain.afterRun, if_pos (by simp [isGap, isSpace, isBreak, lineSeparator, paragraphSeparator])] at hread
  have hopen : (next.lexer offset' row').openKey =
      .ok ⟨⟨line ++ ':' :: more, offset', row', column⟩, tokens, blocks, [some key], true⟩ := rfl
  have hplain := plainScalar_of_read hopen hread
  have hblocks : blocks.head?.all (· ≤ column + line.length) = true := by
    cases blocks with
    | nil => rfl
    | cons b blocks =>
      have hb : b ≤ column := by simpa using hfits.blocks
      simp
      omega
  refine ⟨offset' + Text.bytes line + 1, row', fun n => ?_⟩
  rw [readAll_of_settled (n := n + 1) hsettled hcons, htoken, hplain]
  change readAll (n + 1) ⟨⟨':' :: more, offset' + Text.bytes line, row', column + line.length⟩,
    .scalar line .plain :: tokens, blocks, [some key], false⟩ = _
  rw [readAll_colon key hmore (Nat.le_refl _) (Nat.add_le_add_left hreach _) hblocks, value_key key rfl]
  rfl

theorem reaches_value {rest after : List Char} {column' : Nat}
    (hsettles : Settles stop ⟨line ++ rest, column, tokens, blocks, false⟩)
    (hfits : Fits line rest column blocks) (hstop : Plain.run false rest = .ok [])
    (hafter : ∀ m offset row, rest.length ≤ m → ∃ offset' row',
      Plain.afterRun (depth blocks) m line ⟨rest, offset, row, column + line.length⟩ =
        .ok ⟨line, broke, ⟨after, offset', row', column'⟩⟩) :
    Reaches 1 stop ⟨after, column', .scalar line .plain :: tokens, blocks, broke⟩ := by
  intro offset row
  obtain ⟨offset', row', hsettled⟩ := hsettles offset row
  let next : Stop := ⟨line ++ rest, column, tokens, blocks, false⟩
  obtain ⟨c, text, hcons, htoken⟩ := hfits.token_eq (next.lexer offset' row') rfl rfl
  obtain ⟨m, hm, hread⟩ := hfits.read_eq hstop offset' row'
  obtain ⟨offset'', row'', hended⟩ := hafter m (offset' + Text.bytes line) row' hm
  rw [hended] at hread
  have hopen : (next.lexer offset' row').openKey = .ok (next.lexer offset' row') := rfl
  have hplain := plainScalar_of_read hopen hread
  refine ⟨offset'', row'', fun n => ?_⟩
  rw [readAll_of_settled hsettled hcons, htoken, hplain]
  rfl

end Key

section Entry

theorem blockEntry_eq : blockEntry ⟨⟨'-' :: more, offset, row, column⟩, tokens, blocks, [none], true⟩ =
    .ok ⟨⟨more, offset + 1, row, column + 1⟩,
      .blockEntry :: openedBy .blockSequence column blocks tokens, withBlock column blocks, [none], true⟩ := by
  have hblock := openBlock_length column [] tokens blocks true .blockSequence
    ⟨'-' :: more, offset, row, column⟩ none
  rw [List.nil_append, List.nil_append] at hblock
  change (dropKey (openBlock column tokens.length .blockSequence _) >>= _) = _
  rw [hblock]
  rfl

theorem reaches_entry (hsettles : Settles stop ⟨'-' :: more, column, tokens, blocks, true⟩)
    (hmore : startsGap more = true) :
    Reaches 1 stop ⟨more, column + 1, .blockEntry :: openedBy .blockSequence column blocks tokens,
      withBlock column blocks, true⟩ := by
  intro offset row
  obtain ⟨offset', row', hsettled⟩ := hsettles offset row
  let next : Stop := ⟨'-' :: more, column, tokens, blocks, true⟩
  have hmark : (next.lexer offset' row').cursor.atDocumentMark? = none :=
    atDocumentMark?_of_none (documentMark?_of_gap hmore)
  have htoken : (next.lexer offset' row').token '-' more = (next.lexer offset' row').blockEntry := by
    simp [token, hmark, hmore]
  refine ⟨offset' + 1, row', fun n => ?_⟩
  rw [readAll_of_settled hsettled rfl, htoken, Stop.lexer, blockEntry_eq]
  rfl

theorem reaches_entryKey
    (hsettles : Settles stop ⟨'-' :: ' ' :: (line ++ ':' :: more), column, tokens, blocks, true⟩)
    (hfits : Fits line (':' :: more) (column + 2) (withBlock column blocks)) (hmore : startsGap more = true)
    (hreach : Text.bytes line ≤ keyReach) :
    Reaches 3 stop ⟨more, column + 2 + line.length + 1,
      .value :: .scalar line .plain :: .key :: openedBy .blockMapping (column + 2) (withBlock column blocks)
        (.blockEntry :: openedBy .blockSequence column blocks tokens),
      withBlock (column + 2) (withBlock column blocks), false⟩ := by
  have hspaces : spacesFrom false true false false 0 (' ' :: (line ++ ':' :: more)) = (1, true) :=
    hfits.spacesFrom_eq (':' :: more) true 1
  have hkey : Settles
      ⟨' ' :: (line ++ ':' :: more), column + 1, .blockEntry :: openedBy .blockSequence column blocks tokens,
        withBlock column blocks, true⟩
      ⟨line ++ ':' :: more, column + 2, .blockEntry :: openedBy .blockSequence column blocks tokens,
        withBlock column blocks, true⟩ :=
    settles_of_spacesFrom hspaces fun _ _ => ⟨_, _, closeBlocks_of_reached hfits.blocks⟩
  exact (reaches_entry hsettles rfl).trans (reaches_key hkey hfits hmore hreach)

theorem reaches_literal {rest after text : List Char} {column' : Nat}
    (hsettles : Settles stop ⟨'|' :: rest, column, tokens, blocks, allowed⟩)
    (hread : ∀ offset row, ∃ offset' row',
      Block.read true blocks.head? ⟨'|' :: rest, offset, row, column⟩ =
        .ok (text, ⟨after, offset', row', column'⟩)) :
    Reaches 1 stop ⟨after, column', .scalar text .block :: tokens, blocks, true⟩ := by
  intro offset row
  obtain ⟨offset', row', hsettled⟩ := hsettles offset row
  let next : Stop := ⟨'|' :: rest, column, tokens, blocks, allowed⟩
  obtain ⟨offset'', row'', hended⟩ := hread offset' row'
  have hmark : (next.lexer offset' row').cursor.atDocumentMark? = none :=
    atDocumentMark?_of_none (documentMark?_of_ne (by decide) (by decide) rest)
  have htoken : (next.lexer offset' row').token '|' rest = (next.lexer offset' row').blockScalar true := by
    have hflow : (next.lexer offset' row').inFlow = false := rfl
    simp [token, hmark, hflow]
  refine ⟨offset'', row'', fun n => ?_⟩
  rw [readAll_of_settled hsettled rfl, htoken, blockScalar]
  change ((Block.read true blocks.head? ⟨'|' :: rest, offset', row', column⟩ >>= _) >>= _) = _
  rw [hended]
  rfl

end Entry

section End

theorem readAll_end (hsettles : Settles stop ⟨[], column, tokens, blocks, allowed⟩) (offset row : Nat) :
    (stop.lexer offset row).readAll (n + 1) =
      .ok (closeBlocksFrom (fun _ => false) tokens blocks).1.reverse := by
  obtain ⟨offset', row', hsettled⟩ := hsettles offset row
  have hfresh := dropStaleKeys_of_none (stop.lexer offset row).skipSpaces rfl
  have hclosed : (stop.lexer offset row).skipSpaces.closeBlocks
      (· ≤ (stop.lexer offset row).skipSpaces.cursor.column) = _ := hsettled
  rw [readAll, hfresh]
  simp only [bind, Except.bind, hclosed]
  rfl

def Printed (text : List Char) : Prop := ∀ c ∈ text, isAllowed c = true ∧ c ≠ '\r' ∧ c ≠ nextLine

theorem printed_iff {text : List Char} :
    Printed text ↔ (text.all fun c => isAllowed c && c != '\r' && c != nextLine) = true := by
  simp [Printed, and_assoc]

instance (text : List Char) : Decidable (Printed text) := decidable_of_iff' _ printed_iff

theorem withLineFeeds_eq_self {text : List Char} (h : Printed text) : withLineFeeds text = text := by
  induction text with
  | nil => rfl
  | cons c text ih =>
    obtain ⟨-, hc, hnext⟩ := h c List.mem_cons_self
    rw [withLineFeeds, ih fun d hd => h d (List.mem_cons_of_mem c hd), if_neg (by simp [hc, hnext])]
    exact fun _ heq => absurd heq hc

theorem tokens_of_reaches {text : List Char} (hprinted : Printed text)
    (hreaches : Reaches steps ⟨text, 0, [], [], true⟩ stop)
    (hsettles : Settles stop ⟨[], column, tokens, blocks, allowed⟩) (hsteps : steps ≤ text.length) :
    Yaml.tokens text = .ok (closeBlocksFrom (fun _ => false) tokens blocks).1.reverse := by
  obtain ⟨offset, row, hread⟩ := hreaches 0 0
  obtain ⟨n, hn⟩ : ∃ n, text.length + 1 = (n + 1) + steps := ⟨text.length - steps, by omega⟩
  have hallowed : text.all isAllowed = true := List.all_eq_true.mpr fun c hc => (hprinted c hc).1
  rw [Yaml.tokens, if_pos hallowed]
  simp only [withLineFeeds_eq_self hprinted]
  rw [hn]
  exact (hread (n + 1)).trans (readAll_end hsettles offset row)

end End

end WorkflowScript.Yaml.Lexer
