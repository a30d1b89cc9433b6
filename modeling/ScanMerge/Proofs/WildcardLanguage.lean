import ScanMerge.Wildcard
import Mathlib.Data.List.Forall2

/-!
What wildcard patterns mean. A pattern reads as tokens from the left, and it covers a path that
falls into consecutive pieces, one for each token. The rows by which this is decided say of each end
of the path whether the tokens that are left cover it.
-/

set_option autoImplicit false

namespace ScanMerge.Wildcard

/-! ### Tokens -/

/-- A normalized pattern reads as tokens, the longest ones first. -/
inductive Reads : List Char → List Token → Prop where
  | done : Reads [] []
  | directories {rest : List Char} {tokens : List Token} (others : Reads rest tokens) :
      Reads ('*' :: '*' :: '/' :: rest) (.directories :: tokens)
  | anything {rest : List Char} {tokens : List Token} (noSeparator : rest.head? ≠ some '/')
      (others : Reads rest tokens) : Reads ('*' :: '*' :: rest) (.anything :: tokens)
  | nameChars {rest : List Char} {tokens : List Token} (noStar : rest.head? ≠ some '*')
      (others : Reads rest tokens) : Reads ('*' :: rest) (.nameChars :: tokens)
  | nameChar {rest : List Char} {tokens : List Token} (others : Reads rest tokens) :
      Reads ('?' :: rest) (.nameChar :: tokens)
  | char {c : Char} {rest : List Char} {tokens : List Token} (notStar : c ≠ '*')
      (notMark : c ≠ '?') (others : Reads rest tokens) : Reads (c :: rest) (.char c :: tokens)

theorem reads_tokenize (pattern : List Char) : Reads pattern (tokenize pattern) := by
  fun_induction tokenize pattern with
  | case1 => exact .done
  | case2 rest ih => exact .directories ih
  | case3 rest noSeparator ih =>
    refine .anything ?_ ih
    cases rest with
    | nil => nofun
    | cons c rest =>
      rintro ⟨⟩
      exact noSeparator rest rfl
  | case4 rest _ noStar ih =>
    refine .nameChars ?_ ih
    cases rest with
    | nil => nofun
    | cons c rest =>
      rintro ⟨⟩
      exact noStar rest rfl
  | case5 rest ih => exact .nameChar ih
  | case6 c rest _ _ notStar notMark ih => exact .char notStar notMark ih

theorem Reads.eq_tokenize {pattern : List Char} {tokens : List Token}
    (reads : Reads pattern tokens) : tokens = tokenize pattern := by
  induction reads with
  | done => rfl
  | directories _ ih => rw [tokenize, ih]
  | @anything rest _ noSeparator _ ih =>
    rw [tokenize, ih]
    rintro rest rfl
    exact noSeparator rfl
  | @nameChars rest _ noStar _ ih =>
    rw [tokenize, ih]
    · rintro rest rfl
      exact noStar rfl
    · rintro rest rfl
      exact noStar rfl
  | nameChar _ ih => rw [tokenize, ih]
  | char notStar notMark _ ih => rw [tokenize, ih] <;> simp_all

/-- A normalized pattern reads as its tokens and as no others. -/
theorem reads_iff {pattern : List Char} {tokens : List Token} :
    Reads pattern tokens ↔ tokens = tokenize pattern :=
  ⟨Reads.eq_tokenize, fun same => same ▸ reads_tokenize pattern⟩

/-! ### Pieces of a path -/

/-- The token stands for a piece of a path. -/
def Token.Covers : Token → List Char → Prop
  | .char value, piece => piece = [value]
  | .nameChar, piece => ∃ c, c ≠ '/' ∧ piece = [c]
  | .nameChars, piece => '/' ∉ piece
  | .anything, piece => '\n' ∉ piece
  | .directories, piece => piece = [] ∨ ∃ run, '\n' ∉ run ∧ piece = run ++ ['/']

/-- The text falls into consecutive pieces, one for each token. -/
def Matches (tokens : List Token) (text : List Char) : Prop :=
  ∃ pieces, List.Forall₂ Token.Covers tokens pieces ∧ pieces.flatten = text

/-- The text is a piece for the token with something behind it that has the property. -/
def Token.Leads (token : Token) (after : List Char → Prop) (text : List Char) : Prop :=
  ∃ piece behind, token.Covers piece ∧ after behind ∧ piece ++ behind = text

theorem matches_nil {text : List Char} : Matches [] text ↔ text = [] := by
  constructor
  · rintro ⟨pieces, covers, rfl⟩
    cases covers
    rfl
  · rintro rfl
    exact ⟨[], .nil, rfl⟩

theorem matches_cons {token : Token} {tokens : List Token} {text : List Char} :
    Matches (token :: tokens) text ↔ token.Leads (Matches tokens) text := by
  constructor
  · rintro ⟨pieces, covers, rfl⟩
    cases covers with
    | @cons _ piece _ pieces first others =>
      exact ⟨piece, pieces.flatten, first, ⟨pieces, others, rfl⟩, rfl⟩
  · rintro ⟨piece, _, first, ⟨pieces, others, rfl⟩, rfl⟩
    exact ⟨piece :: pieces, .cons first others, rfl⟩

section Leads

variable {after : List Char → Prop} {c : Char} {rest : List Char}

theorem leads_char_nil {value : Char} : ¬ (Token.char value).Leads after [] := by
  rintro ⟨_, behind, rfl, -, same⟩
  cases same

theorem leads_char_cons {value : Char} :
    (Token.char value).Leads after (c :: rest) ↔ c = value ∧ after rest := by
  constructor
  · rintro ⟨_, behind, rfl, holds, same⟩
    cases same
    exact ⟨rfl, holds⟩
  · rintro ⟨rfl, holds⟩
    exact ⟨[c], rest, rfl, holds, rfl⟩

theorem leads_nameChar_nil : ¬ Token.nameChar.Leads after [] := by
  rintro ⟨_, behind, ⟨c, -, rfl⟩, -, same⟩
  cases same

theorem leads_nameChar_cons :
    Token.nameChar.Leads after (c :: rest) ↔ c ≠ '/' ∧ after rest := by
  constructor
  · rintro ⟨_, behind, ⟨_, proper, rfl⟩, holds, same⟩
    cases same
    exact ⟨proper, holds⟩
  · rintro ⟨proper, holds⟩
    exact ⟨[c], rest, ⟨c, proper, rfl⟩, holds, rfl⟩

/-- Behind characters other than the excluded one the text has the property. -/
def RunLeads (excluded : Char) (after : List Char → Prop) (text : List Char) : Prop :=
  ∃ run behind, excluded ∉ run ∧ after behind ∧ run ++ behind = text

variable {excluded : Char}

theorem runLeads_nil : RunLeads excluded after [] ↔ after [] := by
  constructor
  · rintro ⟨run, behind, -, holds, same⟩
    obtain ⟨rfl, rfl⟩ := List.append_eq_nil_iff.mp same
    exact holds
  · exact fun holds => ⟨[], [], List.not_mem_nil, holds, rfl⟩

/-- A run ends here, or one more character belongs to it. -/
theorem runLeads_cons :
    RunLeads excluded after (c :: rest) ↔
      after (c :: rest) ∨ c ≠ excluded ∧ RunLeads excluded after rest := by
  constructor
  · rintro ⟨run, behind, free, holds, same⟩
    cases run with
    | nil =>
      rw [List.nil_append] at same
      exact .inl (same ▸ holds)
    | cons first run =>
      cases same
      have different := List.ne_of_not_mem_cons free
      exact .inr ⟨Ne.symm different, run, behind, List.not_mem_of_not_mem_cons free, holds, rfl⟩
  · rintro (holds | ⟨different, run, behind, free, holds, rfl⟩)
    · exact ⟨[], c :: rest, List.not_mem_nil, holds, rfl⟩
    · have free := List.not_mem_cons_of_ne_of_not_mem (Ne.symm different) free
      exact ⟨c :: run, behind, free, holds, rfl⟩

/-- Directories are nothing, or a run up to a separator. -/
theorem leads_directories {text : List Char} :
    Token.directories.Leads after text ↔
      after text ∨ RunLeads '\n' (fun text => ∃ behind, text = '/' :: behind ∧ after behind)
        text := by
  constructor
  · rintro ⟨_, behind, rfl | ⟨run, free, rfl⟩, holds, rfl⟩
    · exact .inl holds
    · exact .inr ⟨run, '/' :: behind, free, ⟨behind, rfl, holds⟩, by simp⟩
  · rintro (holds | ⟨run, _, free, ⟨behind, rfl, holds⟩, rfl⟩)
    · exact ⟨[], text, .inl rfl, holds, rfl⟩
    · exact ⟨run ++ ['/'], behind, .inr ⟨run, free, rfl⟩, holds, by simp⟩

end Leads

/-! ### Rows -/

/-- The row says of each end of the text whether it has the property. -/
inductive Tells (property : List Char → Prop) : List Char → List Bool → Prop where
  | last {item : Bool} (iff : item = true ↔ property []) : Tells property [] [item]
  | cons {c : Char} {rest : List Char} {item : Bool} {row : List Bool}
      (iff : item = true ↔ property (c :: rest)) (others : Tells property rest row) :
      Tells property (c :: rest) (item :: row)

section Rows

variable {after property : List Char → Prop} {text : List Char} {row : List Bool}

theorem Tells.head (tells : Tells property text row) : row.headD false = true ↔ property text := by
  cases tells with
  | last iff => exact iff
  | cons iff _ => exact iff

theorem Tells.congr {other : List Char → Prop} (same : ∀ text, property text ↔ other text)
    (tells : Tells property text row) : Tells other text row := by
  induction tells with
  | last iff => exact .last (iff.trans (same []))
  | cons iff _ ih => exact .cons (iff.trans (same _)) ih

/-- What a sweep computes from a row, when each step computes the item for its place. -/
theorem Tells.sweep {step : Char → Bool → Bool → Bool → Bool} {atEnd : Bool → Bool}
    (tells : Tells after text row)
    (ends : ∀ here, (here = true ↔ after []) → (atEnd here = true ↔ property []))
    (steps : ∀ c rest here next done, (here = true ↔ after (c :: rest)) →
      (next = true ↔ after rest) → (done = true ↔ property rest) →
        (step c here next done = true ↔ property (c :: rest))) :
    Tells property text (Wildcard.sweep step atEnd text row) := by
  induction tells with
  | last iff => exact .last (ends _ iff)
  | cons iff others ih => exact .cons (steps _ _ _ _ _ iff others.head ih.head) ih

theorem Tells.or {other : List Char → Prop} {otherRow : List Bool}
    (tells : Tells property text row) (tellsOther : Tells other text otherRow) :
    Tells (fun text => property text ∨ other text) text
      ((row.zip otherRow).map fun items => items.1 || items.2) := by
  induction tells generalizing otherRow with
  | last iff =>
    cases tellsOther with
    | last otherIff => exact .last (Bool.or_eq_true_iff.trans (or_congr iff otherIff))
  | cons iff _ ih =>
    cases tellsOther with
    | cons otherIff others =>
      exact .cons (Bool.or_eq_true_iff.trans (or_congr iff otherIff)) (ih others)

/-- The row of characters up to a place that has the property. -/
theorem tells_run (excluded : Char) (tells : Tells after text row) :
    Tells (RunLeads excluded after) text
      (sweep (fun c here _ done => here || (c ≠ excluded && done)) id text row) := by
  refine tells.sweep (fun here iff => iff.trans runLeads_nil.symm) ?_
  intro c rest here next done iff _ doneIff
  rw [runLeads_cons, ← iff, ← doneIff]
  simp

/-- The row of a token and what follows it. -/
theorem tells_row (token : Token) (tells : Tells after text row) :
    Tells (token.Leads after) text (token.row text row) := by
  cases token with
  | char value =>
    refine tells.sweep (fun _ _ => by simp [leads_char_nil]) ?_
    intro c rest here next done _ nextIff _
    rw [leads_char_cons, ← nextIff]
    simp
  | nameChar =>
    refine tells.sweep (fun _ _ => by simp [leads_nameChar_nil]) ?_
    intro c rest here next done _ nextIff _
    rw [leads_nameChar_cons, ← nextIff]
    simp
  | nameChars => exact tells_run '/' tells
  | anything => exact tells_run '\n' tells
  | directories =>
    have inside : Tells
        (RunLeads '\n' fun text => ∃ behind, text = '/' :: behind ∧ after behind) text
        (sweep (fun c _ next done => (c = '/' && next) || (c ≠ '\n' && done)) (fun _ => false)
          text row) := by
      refine tells.sweep (fun _ _ => by simp [runLeads_nil]) ?_
      intro c rest here next done _ nextIff doneIff
      rw [runLeads_cons, ← doneIff]
      simp [← nextIff]
    exact (tells.or inside).congr fun _ => leads_directories.symm

theorem tells_emptyRow (text : List Char) : Tells (Matches []) text (emptyRow text) := by
  induction text with
  | nil => exact .last (by simp [matches_nil])
  | cons c rest ih => exact .cons (by simp [matches_nil]) ih

end Rows

/-- The tokens match just the texts that fall into pieces for them. -/
theorem isMatch_iff {tokens : List Token} {text : List Char} :
    isMatch tokens text = true ↔ Matches tokens text := by
  have rows (tokens : List Token) : Tells (Matches tokens) text
      (tokens.foldr (fun token after => token.row text after) (emptyRow text)) := by
    induction tokens with
    | nil => exact tells_emptyRow text
    | cons token tokens ih => exact (tells_row token ih).congr fun _ => matches_cons.symm
  exact (rows tokens).head

/-! ### Separators -/

/-- A character that separates the names of a path. -/
def IsSeparator (c : Char) : Prop :=
  c = '/' ∨ c = '\\'

/-- The second text is the first one with other separators and perhaps more of them in front. -/
def Respells (text other : List Char) : Prop :=
  ∃ front back, (∀ c ∈ front, IsSeparator c) ∧
    List.Forall₂ (fun c d => c = d ∨ IsSeparator c ∧ IsSeparator d) text back ∧
      other = front ++ back

theorem slashed_separator {c : Char} (separator : IsSeparator c) :
    (if c = '\\' then '/' else c) = '/' := by
  obtain rfl | rfl := separator
  · decide
  · decide

theorem normalize_append_separators {front : List Char} (separators : ∀ c ∈ front, IsSeparator c)
    (text : List Char) : normalize (front ++ text) = normalize text := by
  rw [normalize, List.map_append]
  refine List.dropWhile_append_of_pos ?_
  intro d mem
  obtain ⟨c, inside, rfl⟩ := List.mem_map.mp mem
  rw [slashed_separator (separators c inside)]
  rfl

theorem normalize_of_respells {text other : List Char} (respells : Respells text other) :
    normalize other = normalize text := by
  obtain ⟨front, back, separators, alike, rfl⟩ := respells
  rw [normalize_append_separators separators, normalize, normalize]
  congr 1
  induction alike with
  | nil => rfl
  | cons same _ ih =>
    rw [List.map_cons, List.map_cons, ih]
    obtain rfl | ⟨left, right⟩ := same
    · rfl
    · rw [slashed_separator left, slashed_separator right]

/-! ### Patterns -/

theorem ofString?_eq_none_iff {spelling : String} :
    ofString? spelling = none ↔ ∀ c ∈ normalize spelling.toList, Text.isBlank c = true := by
  rw [ofString?]
  simp [Text.isBlankText]

theorem tokens_of_ofString? {spelling : String} {wildcard : Wildcard}
    (read : ofString? spelling = some wildcard) :
    wildcard.tokens = tokenize (normalize spelling.toList) := by
  simp only [ofString?] at read
  split at read
  · cases read
  · cases read
    rfl

/-- A pattern is rejected when nothing but blanks is left of it. Otherwise it reads as tokens, in
one way only, and covers the paths that fall into pieces for these tokens. How separators are
written in a pattern and in a path, and how many stand in front, does not matter. -/
theorem ofString?_means (spelling : String) :
    (ofString? spelling = none ↔ ∀ c ∈ normalize spelling.toList, Text.isBlank c = true) ∧
      (∀ wildcard, ofString? spelling = some wildcard →
        ∃ tokens, (∀ others, Reads (normalize spelling.toList) others ↔ others = tokens) ∧
          ∀ path, wildcard.covers path = true ↔ Matches tokens (normalize path)) ∧
      ∀ (other : String) (path otherPath : List Char),
        Respells spelling.toList other.toList → Respells path otherPath →
          (ofString? other).map (·.covers otherPath) =
            (ofString? spelling).map (·.covers path) := by
  refine ⟨ofString?_eq_none_iff, ?_, ?_⟩
  · intro wildcard read
    refine ⟨tokenize (normalize spelling.toList), fun others => reads_iff, fun path => ?_⟩
    rw [covers, tokens_of_ofString? read]
    exact isMatch_iff
  · intro other path otherPath respelled respelledPath
    simp only [ofString?, covers, normalize_of_respells respelled,
      normalize_of_respells respelledPath]
    split <;> rfl

/-- Generated files in any directory. -/
def generatedFiles : Wildcard :=
  ⟨"**/*.g", [.directories, .nameChars, .char '.', .char 'g']⟩

theorem ofString?_means_generatedFiles :
    ofString? "**/*.g" = some generatedFiles ∧
      generatedFiles.covers "a/b/c.g".toList = true ∧
      Respells "**/*.g".toList "\\**\\*.g".toList ∧
      Respells "a/b/c.g".toList "/a\\b/c.g".toList ∧
      (ofString? "\\**\\*.g").map (·.covers "/a\\b/c.g".toList) =
        (ofString? "**/*.g").map (·.covers "a/b/c.g".toList) := by
  have read : ofString? "**/*.g" = some generatedFiles := by decide
  have pattern : Respells "**/*.g".toList "\\**\\*.g".toList :=
    ⟨['\\'], "**\\*.g".toList, by simp [IsSeparator], by simp [IsSeparator], rfl⟩
  have path : Respells "a/b/c.g".toList "/a\\b/c.g".toList :=
    ⟨['/'], "a\\b/c.g".toList, by simp [IsSeparator], by simp [IsSeparator], rfl⟩
  obtain ⟨-, means, respelled⟩ := ofString?_means "**/*.g"
  refine ⟨read, ?_, pattern, path, respelled _ _ _ pattern path⟩
  obtain ⟨tokens, unique, covers⟩ := means generatedFiles read
  have tokens_eq : generatedFiles.tokens = tokens := (unique _).mp (reads_tokenize _)
  rw [covers, ← tokens_eq]
  refine ⟨["a/b/".toList, ['c'], ['.'], ['g']], ?_, rfl⟩
  exact .cons (.inr ⟨"a/b".toList, by decide, rfl⟩)
    (.cons (by decide : '/' ∉ ['c']) (.cons rfl (.cons rfl .nil)))

end ScanMerge.Wildcard
