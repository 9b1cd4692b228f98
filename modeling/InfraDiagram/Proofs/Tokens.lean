import InfraDiagram.Proofs.Attributes

/-!
# Tokens of a DOT program

A scanner for DOT that knows words and numerals, quoted strings in which a backslash takes the
next character with it, arrows, punctuation, and comments up to the end of their line.

## Main definitions

- `Token` — what a program is made of
- `Mode`, `Mode.step` — the scanner's state, and what one character does to it
- `scan` — the tokens of a text, if it is made of tokens to its last character
- `Scans` — a piece of text whose tokens do not depend on what follows

## Main statements

- `Scans.append` — pieces are put together
- `Scans.token` — an identifier or a value is one token, whatever it says
- `Scans.comment` — a comment is one token, whatever it says within its line

## Design notes

A word ends at the first character that cannot go on it, so it is only a piece of its own together
with what ends it.
-/

namespace InfraDiagram.Dot

open Text

/-- What a program is made of. -/
inductive Token where
  /-- A word, a numeral or a quoted string, as it is written. -/
  | name (lexeme : String)
  | arrow
  | mark (c : Char)
  /-- What stands behind the two slashes. -/
  | comment (text : String)
  deriving DecidableEq, Repr

/-- Where the scanner is. The characters of an unfinished token are kept in reverse. -/
inductive Mode where
  | gap
  | word (seen : List Char)
  | quoted (seen : List Char)
  /-- In a quoted string behind a backslash. -/
  | escaped (seen : List Char)
  | dash
  | slash
  | comment (seen : List Char)

def isMark (c : Char) : Bool :=
  c ∈ ['\x7b', '\x7d', '[', ']', ';', ',', '=']

def isGap (c : Char) : Bool :=
  c ∈ [' ', '\t', '\r', '\n']

/-- A character of a word or a numeral. -/
def isLexemeChar (c : Char) : Bool :=
  Id.isWordChar c || c = '.'

/-- The token of a finished word. -/
def wordToken (seen : List Char) : Option Token :=
  if Id.isWord seen.reverse || Id.isNumeral seen.reverse then
    some (.name (String.ofList seen.reverse))
  else none

namespace Mode

/-- A character between tokens. -/
def start (c : Char) : Option (List Token × Mode) :=
  if isGap c then some ([], .gap)
  else if isMark c then some ([.mark c], .gap)
  else if c = '"' then some ([], .quoted ['"'])
  else if c = '-' then some ([], .dash)
  else if c = '/' then some ([], .slash)
  else if isLexemeChar c then some ([], .word [c])
  else none

/-- What a character does: the tokens that it finishes, and where the scanner is behind it. -/
def step : Mode → Char → Option (List Token × Mode)
  | gap, c => start c
  | word seen, c =>
    if isLexemeChar c then some ([], .word (c :: seen))
    else (wordToken seen).bind fun token =>
      (start c).map fun (tokens, next) => (token :: tokens, next)
  | quoted seen, c =>
    if c = '"' then some ([.name (String.ofList (c :: seen).reverse)], .gap)
    else if c = '\\' then some ([], .escaped (c :: seen))
    else some ([], .quoted (c :: seen))
  | escaped seen, c => some ([], .quoted (c :: seen))
  | dash, c => if c = '>' then some ([.arrow], .gap) else none
  | slash, c => if c = '/' then some ([], .comment []) else none
  | comment seen, c =>
    if c = '\n' then some ([.comment (String.ofList seen.reverse)], .gap)
    else some ([], .comment (c :: seen))

def finish : Mode → Option (List Token)
  | gap => some []
  | word seen => (wordToken seen).map ([·])
  | comment seen => some [.comment (String.ofList seen.reverse)]
  | quoted _ | escaped _ | dash | slash => none

end Mode

def scanFrom : Mode → List Char → Option (List Token)
  | mode, [] => mode.finish
  | mode, c :: cs =>
    (mode.step c).bind fun (tokens, next) => (scanFrom next cs).map (tokens ++ ·)

def scan (text : String) : Option (List Token) :=
  scanFrom .gap text.toList

-- ════════════════════════════════════════════════════════════════════════
-- Pieces of text
-- ════════════════════════════════════════════════════════════════════════

/-- A piece of text that is made of the given tokens, whatever follows it. -/
def Scans (piece : List Char) (tokens : List Token) : Prop :=
  ∀ rest, scanFrom .gap (piece ++ rest) = (scanFrom .gap rest).map (tokens ++ ·)

theorem scanFrom_cons {mode : Mode} {c : Char} (tokens : List Token) (next : Mode)
    (h : mode.step c = some (tokens, next)) (cs : List Char) :
    scanFrom mode (c :: cs) = (scanFrom next cs).map (tokens ++ ·) := by
  rw [scanFrom, h]
  rfl

/-- A character that finishes no token. -/
theorem scanFrom_skip {mode : Mode} {c : Char} (next : Mode)
    (h : mode.step c = some ([], next)) (cs : List Char) :
    scanFrom mode (c :: cs) = scanFrom next cs := by
  rw [scanFrom_cons _ _ h]
  exact Option.map_id'

namespace Scans

theorem nil : Scans [] [] := by
  intro rest
  simp

theorem append {piece piece' : List Char} {tokens tokens' : List Token}
    (h : Scans piece tokens) (h' : Scans piece' tokens') :
    Scans (piece ++ piece') (tokens ++ tokens') := by
  intro rest
  rw [List.append_assoc, h, h', Option.map_map]
  congr 1
  funext ts
  simp

/-- A text in a scanner's hands is scanned to its end. -/
theorem scan_eq {text : String} {tokens : List Token} (h : Scans text.toList tokens) :
    scan text = some tokens := by
  have hend := h []
  simpa [scan, scanFrom, Mode.finish] using hend

theorem gap {c : Char} (h : isGap c = true) : Scans [c] [] := by
  intro rest
  exact scanFrom_cons _ _ (by simp [Mode.step, Mode.start, h]) rest

theorem mark {c : Char} (h : isMark c = true) : Scans [c] [.mark c] := by
  have hgap : isGap c = false := by
    simp only [isMark, List.mem_cons, List.not_mem_nil, or_false, decide_eq_true_eq] at h
    rcases h with rfl | rfl | rfl | rfl | rfl | rfl | rfl <;> rfl
  intro rest
  exact scanFrom_cons _ _ (by simp [Mode.step, Mode.start, h, hgap]) rest

theorem gaps (n : Nat) : Scans (List.replicate n ' ') [] := by
  induction n with
  | zero => exact nil
  | succ n ih => exact (gap (c := ' ') rfl).append ih

theorem arrow : Scans ['-', '>'] [.arrow] := by
  intro rest
  rw [List.cons_append, scanFrom_skip .dash rfl,
    List.cons_append, scanFrom_cons [.arrow] .gap rfl]
  rfl

end Scans

-- ════════════════════════════════════════════════════════════════════════
-- Quoted strings and comments
-- ════════════════════════════════════════════════════════════════════════

/-- Inside a quoted string, escaped text never ends it. -/
theorem scanFrom_quoted {cs : List Char} (h : Id.isEscaped cs = true) (seen rest : List Char) :
    scanFrom (.quoted seen) (cs ++ rest) = scanFrom (.quoted (cs.reverse ++ seen)) rest := by
  fun_induction Id.isEscaped cs generalizing seen with
  | case1 => rfl
  | case2 => simp at h
  | case3 e cs ih =>
    rw [List.cons_append, scanFrom_skip (.escaped ('\\' :: seen)) rfl,
      List.cons_append, scanFrom_skip (.quoted (e :: '\\' :: seen)) rfl,
      ih h]
    simp
  | case4 c cs h1 h2 ih =>
    have hne : c ≠ '\\' := Id.ne_backslash h1 h2
    simp only [Bool.and_eq_true, bne_iff_ne] at h
    rw [List.cons_append, scanFrom_skip (.quoted (c :: seen))
      (by simp [Mode.step, hne, h.1.1]), ih h.2]
    simp

theorem Scans.quoted {cs : List Char} (h : Id.isEscaped cs = true) :
    Scans ('"' :: (cs ++ ['"'])) [.name (String.ofList ('"' :: (cs ++ ['"'])))] := by
  intro rest
  rw [List.cons_append, scanFrom_skip (.quoted ['"']) rfl,
    List.append_assoc, scanFrom_quoted h, List.cons_append,
    scanFrom_cons [.name (String.ofList ('"' :: (cs.reverse ++ ['"'])).reverse)] .gap rfl]
  simp

/-- Inside a comment, anything but a line feed goes on it. -/
theorem scanFrom_comment {cs : List Char} (h : '\n' ∉ cs) (seen rest : List Char) :
    scanFrom (.comment seen) (cs ++ rest) = scanFrom (.comment (cs.reverse ++ seen)) rest := by
  induction cs generalizing seen with
  | nil => rfl
  | cons c cs ih =>
    rw [List.mem_cons, not_or] at h
    rw [List.cons_append, scanFrom_skip (.comment (c :: seen))
      (by simp [Mode.step, Ne.symm h.1]), ih h.2]
    simp

theorem Scans.comment {cs : List Char} (h : '\n' ∉ cs) :
    Scans ('/' :: '/' :: (cs ++ ['\n'])) [.comment (String.ofList cs)] := by
  intro rest
  rw [List.cons_append, scanFrom_skip .slash rfl,
    List.cons_append, scanFrom_skip (.comment []) rfl,
    List.append_assoc, scanFrom_comment h, List.cons_append,
    scanFrom_cons [.comment (String.ofList (cs.reverse ++ []).reverse)] .gap rfl]
  simp

-- ════════════════════════════════════════════════════════════════════════
-- Words
-- ════════════════════════════════════════════════════════════════════════

theorem isLexemeChar_of_isWord {cs : List Char} (h : Id.isWord cs = true) :
    ∀ c ∈ cs, isLexemeChar c = true := by
  intro c hc
  simp [isLexemeChar, Id.isWordChar_of_isWord h c hc]

theorem isLexemeChar_of_isNumeral {cs : List Char} (h : Id.isNumeral cs = true) :
    ∀ c ∈ cs, isLexemeChar c = true := by
  cases cs with
  | nil => simp
  | cons d cs =>
    simp only [Id.isNumeral, Bool.and_eq_true, List.all_eq_true, Bool.or_eq_true,
      decide_eq_true_eq] at h
    intro c hc
    rcases List.mem_cons.1 hc with rfl | hc
    · simp [isLexemeChar, Id.isWordChar, h.1]
    · rcases h.2 c hc with hdigit | hpoint
      · simp [isLexemeChar, Id.isWordChar, hdigit]
      · simp [isLexemeChar, hpoint]

/-- A character of a word starts one. -/
theorem Mode.start_of_isLexemeChar {c : Char} (h : isLexemeChar c = true) :
    Mode.start c = some ([], .word [c]) := by
  have hne : ∀ d : Char, isLexemeChar d = false → c ≠ d := by
    rintro d hd rfl
    rw [hd] at h
    cases h
  have hgap : isGap c = false := by
    simp [isGap, hne ' ' rfl, hne '\t' rfl, hne '\r' rfl, hne '\n' rfl]
  have hmark : isMark c = false := by
    simp [isMark, hne '\x7b' rfl, hne '\x7d' rfl, hne '[' rfl, hne ']' rfl, hne ';' rfl,
      hne ',' rfl, hne '=' rfl]
  simp [Mode.start, hgap, hmark, hne '"' rfl, hne '-' rfl, hne '/' rfl, h]

theorem scanFrom_word {cs : List Char} (h : ∀ c ∈ cs, isLexemeChar c = true)
    (seen rest : List Char) :
    scanFrom (.word seen) (cs ++ rest) = scanFrom (.word (cs.reverse ++ seen)) rest := by
  induction cs generalizing seen with
  | nil => rfl
  | cons c cs ih =>
    rw [List.forall_mem_cons] at h
    rw [List.cons_append, scanFrom_skip (.word (c :: seen))
      (by simp [Mode.step, h.1]), ih h.2]
    simp

/-- A character that cannot go on a word ends it. -/
theorem scanFrom_word_end {seen : List Char} {token : Token} (h : wordToken seen = some token)
    {c : Char} (hc : isLexemeChar c = false) (rest : List Char) :
    scanFrom (.word seen) (c :: rest) = (scanFrom .gap (c :: rest)).map (token :: ·) := by
  -- `c` both ends the word and is the first character behind it
  simp only [scanFrom, Mode.step, hc, h]
  cases Mode.start c with
  | none => rfl
  | some result =>
    change (scanFrom result.2 rest).map _ = ((scanFrom result.2 rest).map _).map _
    rw [Option.map_map]
    rfl

/-- A character of a word in front of a text that begins otherwise. -/
theorem Scans.word {c : Char} {cs : List Char} (hword : ∀ d ∈ c :: cs, isLexemeChar d = true)
    (htoken : wordToken (c :: cs).reverse = some (.name (String.ofList (c :: cs))))
    {d : Char} {piece : List Char} {tokens : List Token} (hd : isLexemeChar d = false)
    (hpiece : Scans (d :: piece) tokens) :
    Scans (c :: cs ++ d :: piece) (.name (String.ofList (c :: cs)) :: tokens) := by
  intro rest
  rw [List.forall_mem_cons] at hword
  have hseen : (cs.reverse ++ [c]) = (c :: cs).reverse := by simp
  have hstart : Mode.gap.step c = some ([], .word [c]) := Mode.start_of_isLexemeChar hword.1
  rw [List.append_assoc, List.cons_append,
    scanFrom_skip (.word [c]) hstart,
    scanFrom_word hword.2, hseen, List.cons_append, scanFrom_word_end htoken hd,
    ← List.cons_append, hpiece, Option.map_map]
  rfl

/-- A text that is one token; reserved words are, too. -/
def IsToken (s : String) : Prop :=
  Id.isWord s.toList = true ∨ Id.isNumeral s.toList = true ∨ Id.isQuoted s = true

theorem Id.IsLexeme.isToken {s : String} (h : Id.IsLexeme s) : IsToken s := by
  rcases h with (hbare | hquoted) | hnumeral
  · simp only [Id.isBare, Bool.and_eq_true] at hbare
    exact .inl hbare.1
  · exact .inr (.inr hquoted)
  · exact .inr (.inl hnumeral)

/-- A token in front of a text that cannot go on it. -/
theorem Scans.token {s : String} (h : IsToken s) {d : Char} {piece : List Char}
    {tokens : List Token} (hd : isLexemeChar d = false) (hpiece : Scans (d :: piece) tokens) :
    Scans (s.toList ++ d :: piece) (.name s :: tokens) := by
  -- words and numerals are scanned alike and differ only in what makes them tokens
  have hofWord : ∀ hword : (∀ c ∈ s.toList, isLexemeChar c = true) ∧
      (Id.isWord s.toList = true ∨ Id.isNumeral s.toList = true),
      Scans (s.toList ++ d :: piece) (.name s :: tokens) := by
    rintro ⟨hchars, hshape⟩
    have htoken : wordToken s.toList.reverse = some (.name (String.ofList s.toList)) := by
      simp [wordToken, hshape]
    cases hs : s.toList with
    | nil => simp [hs, Id.isWord, Id.isNumeral] at hshape
    | cons c cs =>
      rw [hs] at hchars htoken
      have hscans := Scans.word hchars htoken hd hpiece
      rwa [← hs, String.ofList_toList, hs] at hscans
  rcases h with hword | hnumeral | hquoted
  · exact hofWord ⟨isLexemeChar_of_isWord hword, .inl hword⟩
  · exact hofWord ⟨isLexemeChar_of_isNumeral hnumeral, .inr hnumeral⟩
  · obtain ⟨cs, hcs, hs⟩ := Id.isQuoted_iff.1 hquoted
    have hscans := (Scans.quoted hcs).append hpiece
    rwa [← hs, String.ofList_toList] at hscans

end InfraDiagram.Dot
