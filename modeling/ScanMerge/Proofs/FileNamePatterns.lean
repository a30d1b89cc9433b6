import ScanMerge.Proofs.Classification
import ScanMerge.Proofs.Utf8
import ScanMerge.Proofs.WildcardLanguage
import Mathlib.Data.List.DropRight

/-!
Patterns for the names of files in any directory. Such a pattern looks at the directories of a path
for one thing only: no line feed may stand in them. Otherwise the name of the file decides.
-/

set_option autoImplicit false

namespace ScanMerge.Wildcard

instance : DecidablePred IsSeparator := fun c =>
  inferInstanceAs (Decidable (c = '/' ∨ c = '\\'))

/-! ### The name at the end of a path -/

/-- What stands behind the last separator of a path. -/
def fileName (path : List Char) : List Char :=
  path.rtakeWhile fun c => ¬ IsSeparator c

/-- A path up to its last separator. -/
def directories (path : List Char) : List Char :=
  path.rdropWhile fun c => ¬ IsSeparator c

theorem directories_append_fileName (path : List Char) :
    directories path ++ fileName path = path :=
  List.rdropWhile_append_rtakeWhile

theorem not_isSeparator_of_mem_fileName {path : List Char} :
    ∀ c ∈ fileName path, ¬ IsSeparator c := by
  intro c mem
  simpa using List.mem_rtakeWhile_imp mem

/-- Directories end with a separator. -/
theorem directories_eq (path : List Char) :
    directories path = [] ∨
      ∃ names separator, IsSeparator separator ∧ directories path = names ++ [separator] := by
  by_cases empty : directories path = []
  · exact .inl empty
  · have last : IsSeparator ((directories path).getLast empty) := by
      have ends := List.rdropWhile_last_not _ _ empty
      rwa [decide_eq_true_eq, not_not] at ends
    exact .inr ⟨_, _, last, (List.dropLast_append_getLast empty).symm⟩

/-! ### Normalized paths -/

theorem slash_of_not_isSeparator {c : Char} (other : ¬ IsSeparator c) :
    (if c = '\\' then '/' else c) = c :=
  if_neg fun same => other (.inr same)

theorem map_slash_of_free {name : List Char} (free : ∀ c ∈ name, ¬ IsSeparator c) :
    (name.map fun c => if c = '\\' then '/' else c) = name :=
  (List.map_congr_left fun c mem => slash_of_not_isSeparator (free c mem)).trans (List.map_id' name)

/-- A name without separators stays as it is behind what is left of the directories. -/
theorem normalize_append_of_free {name : List Char} (free : ∀ c ∈ name, ¬ IsSeparator c)
    (front : List Char) : normalize (front ++ name) = normalize front ++ name := by
  have kept : name.dropWhile (· = '/') = name := by
    cases name with
    | nil => rfl
    | cons c rest =>
      have different : c ≠ '/' := fun same => free c List.mem_cons_self (.inl same)
      exact List.dropWhile_cons_of_neg (by simpa using different)
  rw [normalize, List.map_append, map_slash_of_free free, List.dropWhile_append, kept]
  split
  · next empty => rw [normalize, List.isEmpty_iff.mp empty, List.nil_append]
  · rfl

theorem normalize_of_free {name : List Char} (free : ∀ c ∈ name, ¬ IsSeparator c) :
    normalize name = name :=
  normalize_append_of_free free []

/-- Normalized directories end with a slash. -/
theorem normalize_directories (path : List Char) :
    normalize (directories path) = [] ∨ ∃ names, normalize (directories path) = names ++ ['/'] := by
  obtain empty | ⟨names, separator, isSeparator, same⟩ := directories_eq path
  · exact .inl (by rw [empty]; rfl)
  · rw [same, normalize, List.map_append, List.map_singleton, slashed_separator isSeparator,
      List.dropWhile_append]
    split
    · exact .inl rfl
    · exact .inr ⟨_, rfl⟩

theorem lineFeed_mem_normalize {path : List Char} : '\n' ∈ normalize path ↔ '\n' ∈ path := by
  have slashes : '\n' ∉ (path.map fun c => if c = '\\' then '/' else c).takeWhile (· = '/') := by
    intro mem
    exact absurd (List.mem_takeWhile_imp mem) (by decide)
  have mapped : '\n' ∈ (path.map fun c => if c = '\\' then '/' else c) ↔ '\n' ∈ path := by
    rw [List.mem_map]
    constructor
    · rintro ⟨c, mem, same⟩
      split at same
      · cases same
      · exact same ▸ mem
    · exact fun mem => ⟨'\n', mem, rfl⟩
  rw [← mapped, ← List.takeWhile_append_dropWhile (p := (· = '/'))
    (l := path.map fun c => if c = '\\' then '/' else c), List.mem_append, or_iff_right slashes]
  rfl

/-! ### Patterns for names -/

/-- A pattern for the names of files: not blank, without separators and without two stars in a
row. -/
structure IsNamePattern (pattern : List Char) : Prop where
  free : ∀ c ∈ pattern, ¬ IsSeparator c
  singleStars : pattern.IsChain fun c d => ¬ (c = '*' ∧ d = '*')
  notBlank : ∃ c ∈ pattern, Text.isBlank c = false

instance (pattern : List Char) : Decidable (IsNamePattern pattern) :=
  decidable_of_iff
    ((pattern.all fun c => ¬ IsSeparator c) = true ∧
      (pattern.IsChain fun c d => ¬ (c = '*' ∧ d = '*')) ∧ (pattern.any (!Text.isBlank ·)) = true)
    (by
      rw [List.all_eq_true, List.any_eq_true]
      constructor
      · rintro ⟨free, singleStars, c, mem, notBlank⟩
        exact ⟨fun c mem => of_decide_eq_true (free c mem), singleStars, c, mem,
          (Bool.not_eq_true' _).mp notBlank⟩
      · rintro ⟨free, singleStars, c, mem, notBlank⟩
        exact ⟨fun c mem => decide_eq_true (free c mem), singleStars, c, mem,
          (Bool.not_eq_true' _).mpr notBlank⟩)

def Token.InName : Token → Prop
  | .char value => value ≠ '/'
  | .nameChar => True
  | .nameChars => True
  | .anything => False
  | .directories => False

theorem inName_of_mem_tokenize {pattern : List Char} (free : ∀ c ∈ pattern, ¬ IsSeparator c)
    (singleStars : pattern.IsChain fun c d => ¬ (c = '*' ∧ d = '*')) :
    ∀ token ∈ tokenize pattern, token.InName := by
  fun_induction tokenize pattern with
  | case1 => exact List.forall_mem_nil _
  | case2 rest ih => exact absurd ⟨rfl, rfl⟩ (List.isChain_cons_cons.mp singleStars).1
  | case3 rest _ ih => exact absurd ⟨rfl, rfl⟩ (List.isChain_cons_cons.mp singleStars).1
  | case4 rest _ _ ih =>
    have others := ih (List.forall_mem_of_forall_mem_cons free) singleStars.of_cons
    exact List.forall_mem_cons.mpr ⟨trivial, others⟩
  | case5 rest ih =>
    have others := ih (List.forall_mem_of_forall_mem_cons free) singleStars.of_cons
    exact List.forall_mem_cons.mpr ⟨trivial, others⟩
  | case6 c rest _ _ _ _ ih =>
    have others := ih (List.forall_mem_of_forall_mem_cons free) singleStars.of_cons
    exact List.forall_mem_cons.mpr
      ⟨fun same => free c List.mem_cons_self (.inl same), others⟩

/-- A piece for a token of a name holds no slash. -/
theorem Token.InName.slash_not_mem {token : Token} {piece : List Char} (inName : token.InName)
    (covers : token.Covers piece) : '/' ∉ piece := by
  cases token with
  | char value =>
    obtain rfl : piece = [value] := covers
    simpa using Ne.symm inName
  | nameChar =>
    obtain ⟨c, proper, rfl⟩ := covers
    simpa using Ne.symm proper
  | nameChars => exact covers
  | anything => exact inName.elim
  | directories => exact inName.elim

theorem slash_not_mem_of_matches {tokens : List Token} {text : List Char}
    (inName : ∀ token ∈ tokens, token.InName) (holds : Matches tokens text) : '/' ∉ text := by
  obtain ⟨pieces, covers, rfl⟩ := holds
  induction covers with
  | nil => exact List.not_mem_nil
  | cons first _ ih =>
    rw [List.flatten_cons, List.mem_append, not_or]
    rw [List.forall_mem_cons] at inName
    exact ⟨inName.1.slash_not_mem first, ih inName.2⟩

/-- What stands in front of a name is the text up to its last slash. -/
theorem rdropWhile_append_of_free {front name : List Char}
    (ends : front = [] ∨ ∃ names, front = names ++ ['/']) (free : '/' ∉ name) :
    (front ++ name).rdropWhile (· ≠ '/') = front := by
  have passed : ∀ c ∈ name.reverse, decide (c ≠ '/') = true := by
    intro c mem
    exact decide_eq_true fun same => free (same ▸ List.mem_reverse.mp mem)
  rw [List.rdropWhile, List.reverse_append, List.dropWhile_append_of_pos passed]
  obtain rfl | ⟨names, rfl⟩ := ends
  · rfl
  · exact List.rdropWhile_concat_neg _ _ _ (by decide)

/-- A text is cut behind its last slash in one way only. -/
theorem eq_of_append_slash {run behind front name : List Char} (freeBehind : '/' ∉ behind)
    (free : '/' ∉ name) (ends : front = [] ∨ ∃ names, front = names ++ ['/'])
    (same : run ++ ['/'] ++ behind = front ++ name) : front = run ++ ['/'] ∧ behind = name := by
  have fronts : front = run ++ ['/'] := by
    rw [← rdropWhile_append_of_free ends free, ← same,
      rdropWhile_append_of_free (.inr ⟨run, rfl⟩) freeBehind]
  rw [fronts] at same
  exact ⟨fronts, List.append_cancel_left same⟩

/-- Directories in front of a name: the name is what the other tokens stand for, and no line feed
stands in the directories. -/
theorem matches_directories_iff {tokens : List Token} {front name : List Char}
    (inName : ∀ token ∈ tokens, token.InName) (ends : front = [] ∨ ∃ names, front = names ++ ['/'])
    (free : '/' ∉ name) :
    Matches (.directories :: tokens) (front ++ name) ↔ Matches tokens name ∧ '\n' ∉ front := by
  rw [matches_cons]
  constructor
  · rintro ⟨_, behind, rfl | ⟨run, noFeed, rfl⟩, holds, same⟩
    · -- No directories: the name tokens stand for the whole text, so nothing is in front.
      have slashless := slash_not_mem_of_matches inName holds
      obtain rfl | ⟨names, rfl⟩ := ends
      · obtain rfl : behind = name := same
        exact ⟨holds, List.not_mem_nil⟩
      · rw [List.nil_append] at same
        simp [same] at slashless
    · have slashless := slash_not_mem_of_matches inName holds
      obtain ⟨rfl, rfl⟩ := eq_of_append_slash slashless free ends same
      exact ⟨holds, by simpa using noFeed⟩
  · rintro ⟨holds, noFeed⟩
    refine ⟨front, name, ?_, holds, rfl⟩
    obtain rfl | ⟨names, rfl⟩ := ends
    · exact .inl rfl
    · exact .inr ⟨names, fun mem => noFeed (List.mem_append_left _ mem), rfl⟩

theorem isMatch_directories_iff {tokens : List Token} (inName : ∀ token ∈ tokens, token.InName)
    (path : List Char) :
    isMatch (.directories :: tokens) (normalize path) = true ↔
      isMatch tokens (normalize (fileName path)) = true ∧ '\n' ∉ directories path := by
  have free : ∀ c ∈ fileName path, ¬ IsSeparator c := not_isSeparator_of_mem_fileName
  have slashless : '/' ∉ fileName path := fun mem => free _ mem (.inl rfl)
  have split : normalize path = normalize (directories path) ++ fileName path := by
    rw [← normalize_append_of_free free, directories_append_fileName]
  rw [split, isMatch_iff, matches_directories_iff inName (normalize_directories path) slashless,
    lineFeed_mem_normalize, normalize_of_free free, isMatch_iff]

theorem IsNamePattern.ofString? {name : String} (isName : IsNamePattern name.toList) :
    Wildcard.ofString? name = some ⟨name, tokenize name.toList⟩ := by
  obtain ⟨c, mem, notBlank⟩ := isName.notBlank
  have whole : ¬ Text.isBlankText name.toList = true := by
    rw [Text.isBlankText, List.all_eq_true]
    exact fun blank => absurd (blank c mem) (by rw [notBlank]; decide)
  rw [Wildcard.ofString?, normalize_of_free isName.free]
  exact if_neg whole

theorem IsNamePattern.ofString?_directories {name : String} (isName : IsNamePattern name.toList) :
    Wildcard.ofString? ("**/" ++ name) =
      some ⟨"**/" ++ name, .directories :: tokenize name.toList⟩ := by
  have normal : normalize ("**/" ++ name).toList = '*' :: '*' :: '/' :: name.toList := by
    rw [String.toList_append]
    exact normalize_append_of_free isName.free "**/".toList
  rw [Wildcard.ofString?, normal]
  rfl

/-- A pattern for names covers in any directory the files whose names it covers, unless a line feed
stands in the directories. -/
theorem IsNamePattern.exists_covers {name : String} (isName : IsNamePattern name.toList) :
    ∃ anywhere here, Wildcard.ofString? ("**/" ++ name) = some anywhere ∧
      Wildcard.ofString? name = some here ∧
        ∀ path, anywhere.covers path = true ↔
          here.covers (fileName path) = true ∧ '\n' ∉ directories path :=
  ⟨_, _, isName.ofString?_directories, isName.ofString?,
    isMatch_directories_iff (inName_of_mem_tokenize isName.free isName.singleStars)⟩

/-- Patterns for names in any directory look at nothing but the name, once no line feed stands in
the directories. -/
theorem coversPath_iff_of_names {settings : ClassifierSettings} {names : List String}
    (anywhere : settings.generatedPatterns = names.map ("**/" ++ ·))
    (areNames : ∀ name ∈ names, IsNamePattern name.toList) (path : Path) :
    (Classifier.ofSettings settings).coversPath path = true ↔
      '\n' ∉ directories path.displayChars ∧
        ∃ name ∈ names, ∃ here, Wildcard.ofString? name = some here ∧
          here.covers (fileName path.displayChars) = true := by
  rw [Classifier.coversPath_ofSettings_iff, anywhere]
  constructor
  · rintro ⟨_, listed, _, read, covers⟩
    obtain ⟨name, mem, rfl⟩ := List.mem_map.mp listed
    obtain ⟨wide, here, readWide, readHere, iff⟩ := (areNames name mem).exists_covers
    obtain rfl := Option.some.inj (read.symm.trans readWide)
    obtain ⟨coversName, noFeed⟩ := (iff _).mp covers
    exact ⟨noFeed, name, mem, here, readHere, coversName⟩
  · rintro ⟨noFeed, name, mem, here, read, covers⟩
    obtain ⟨wide, _, readWide, readHere, iff⟩ := (areNames name mem).exists_covers
    obtain rfl := Option.some.inj (read.symm.trans readHere)
    exact ⟨_, List.mem_map_of_mem mem, wide, readWide, (iff _).mpr ⟨covers, noFeed⟩⟩

/-- The names of files that are generated by default. -/
def generatedNames : List String :=
  ["*.Designer.vb", "*.g.vb", "*.g.i.vb", "*.generated.vb", "*.AssemblyInfo.vb",
    "TemporaryGeneratedFile_*", "*razor*.g.cs", "*cshtml*.g.cs"]

/-- A pattern for names behind `**/` covers a path when the pattern covers the name at its end and
no line feed stands in its directories; so the default patterns tell generated files by their
names. -/
theorem covers_anyDirectory_iff {name : String} (isName : IsNamePattern name.toList) (path : Path) :
    (∃ anywhere here, Wildcard.ofString? ("**/" ++ name) = some anywhere ∧
      Wildcard.ofString? name = some here ∧
        ∀ text, anywhere.covers text = true ↔
          here.covers (fileName text) = true ∧ '\n' ∉ directories text) ∧
      ((Classifier.ofSettings {}).coversPath path = true ↔
        '\n' ∉ directories path.displayChars ∧
          ∃ generated ∈ generatedNames, ∃ here, Wildcard.ofString? generated = some here ∧
            here.covers (fileName path.displayChars) = true) := by
  have areNames : ∀ generated ∈ generatedNames, IsNamePattern generated.toList := by decide
  exact ⟨isName.exists_covers, coversPath_iff_of_names rfl areNames path⟩

theorem covers_anyDirectory_iff_lineFeed :
    IsNamePattern "*.g.vb".toList ∧
      (∃ anywhere here, Wildcard.ofString? ("**/" ++ "*.g.vb") = some anywhere ∧
        Wildcard.ofString? "*.g.vb" = some here ∧
          here.covers "Form.g.vb".toList = true ∧
            anywhere.covers "obj\\x64/Form.g.vb".toList = true ∧
              anywhere.covers "obj\nx64/Form.g.vb".toList = false) ∧
        (Classifier.ofSettings {}).coversPath (.ofString "obj\nx64/Form.g.vb") = false := by
  have isName : IsNamePattern "*.g.vb".toList := by decide
  have shown : (Path.ofString "obj\nx64/Form.g.vb").displayChars = "obj\nx64/Form.g.vb".toList :=
    Text.Utf8.decodeLossy_encode _
  have feed : '\n' ∈ directories "obj\nx64/Form.g.vb".toList := by decide
  obtain ⟨⟨anywhere, here, readWide, readHere, iff⟩, byDefault⟩ :=
    covers_anyDirectory_iff isName (.ofString "obj\nx64/Form.g.vb")
  have covers : here.covers "Form.g.vb".toList = true := by
    obtain rfl := Option.some.inj (readHere.symm.trans isName.ofString?)
    decide
  refine ⟨isName, ⟨anywhere, here, readWide, readHere, covers, ?_, ?_⟩, ?_⟩
  · exact (iff _).mpr ⟨covers, by decide⟩
  · exact Bool.eq_false_iff.mpr fun wide => ((iff _).mp wide).2 feed
  · exact Bool.eq_false_iff.mpr fun wide => (byDefault.mp wide).1 (shown ▸ feed)

end ScanMerge.Wildcard
