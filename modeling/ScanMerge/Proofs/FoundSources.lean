import ScanMerge.Proofs.Utf8
import ScanMerge.Proofs.WrittenFiles
import ScanMerge.Sources

/-!
The source files that a search finds. It lists every file below its root to which no name leads that
is passed over and whose extension is one of source files, and it lists nothing else, except that a
name that is not UTF-8 is passed over when the text shown for it is excluded. What is listed ascends
because the names of every folder do.
-/

set_option autoImplicit false

namespace ScanMerge

namespace Text.Utf8

/-! ### Names as texts -/

theorem encode_inj {left right : List Char} : encode left = encode right ↔ left = right := by
  refine ⟨fun same => ?_, congrArg encode⟩
  have read := decode?_encode left
  rw [same, decode?_encode] at read
  exact (Option.some.inj read).symm

theorem decodeLossy_of_decode? {bytes : List UInt8} {text : List Char}
    (decodes : decode? bytes = some text) : decodeLossy bytes = text := by
  rw [← encode_of_decode? decodes, decodeLossy_encode]

/-- The bytes of characters outside of ASCII are none of ASCII characters. -/
theorem high_of_mem_encodeChar {c : Char} (high : ¬ c.toNat < 0x80) {byte : UInt8}
    (member : byte ∈ encodeChar c) : 0x80 ≤ byte.toNat := by
  have valid : c.toNat < 0xD800 ∨ 0xDFFF < c.toNat ∧ c.toNat < 0x110000 := c.valid
  rw [encodeChar, if_neg high] at member
  split at member
  · simp only [List.mem_cons, List.not_mem_nil, or_false] at member
    rcases member with rfl | rfl <;> rw [toNat_byte (by omega)] <;> omega
  · split at member
    · simp only [List.mem_cons, List.not_mem_nil, or_false] at member
      rcases member with rfl | rfl | rfl <;> rw [toNat_byte (by omega)] <;> omega
    · simp only [List.mem_cons, List.not_mem_nil, or_false] at member
      rcases member with rfl | rfl | rfl | rfl <;> rw [toNat_byte (by omega)] <;> omega

/-- A text begins with a dot when its bytes do, whatever they spell behind it. -/
theorem head?_decodeLossy (bytes : List UInt8) :
    (decodeLossy bytes).head? = some '.' ↔ bytes.head? = some Path.dot := by
  have ofPiece {value : Char} {first : UInt8} {others : List UInt8}
      (spells : encodeChar value = first :: others) :
      value = '.' ↔ first = Path.dot := by
    constructor
    · rintro rfl
      exact (List.cons.inj spells).1.symm
    · rintro rfl
      by_cases ascii : value.toNat < 0x80
      · rw [encodeChar_of_lt ascii] at spells
        have code := congrArg UInt8.toNat (List.cons.inj spells).1
        rw [toNat_byte (by omega)] at code
        exact Char.toNat_inj.mp code
      · have low := high_of_mem_encodeChar ascii (spells ▸ List.mem_cons_self)
        exact absurd low (by decide)
  have leads {first : UInt8} (high : ¬ first < 0x80) : first ≠ Path.dot := by
    rintro rfl
    exact high (by decide)
  rw [decodeLossy]
  fun_cases pieces bytes with
  | case1 => simp
  | case2 first rest ascii => simpa [Piece.replaced] using ofPiece (encodeChar_of_one ascii)
  | case4 first notAscii two second rest isSecond =>
    simpa [Piece.replaced] using ofPiece (encodeChar_of_two two isSecond)
  | case8 first notAscii notTwo three second isSecond third rest isThird =>
    simpa [Piece.replaced] using ofPiece (encodeChar_of_three three isSecond isThird)
  | case14 first notAscii notTwo notThree four second isSecond third isThird fourth rest isFourth =>
    simpa [Piece.replaced] using ofPiece (encodeChar_of_four four isSecond isThird isFourth)
  -- Elsewhere a replacement character stands for the first byte.
  | _ => simp [Piece.replaced, leads (by assumption)]

end Text.Utf8

namespace ScannerSettings

open Text.Utf8

theorem foldCase_of_high {byte : UInt8} (high : 0x80 ≤ byte.toNat) : foldCase byte = byte := by
  rw [foldCase, if_neg]
  rw [between_iff]
  change ¬ (65 ≤ byte.toNat ∧ byte.toNat ≤ 90)
  omega

/-- Folding the bytes of a character is making it small, if it is a capital letter of ASCII. -/
theorem map_foldCase_encodeChar (c : Char) :
    (encodeChar c).map foldCase = encodeChar c.toLower := by
  by_cases ascii : c.toNat < 0x80
  · have folds : ∀ code : Fin 0x80,
        (encodeChar (Char.ofNat code)).map foldCase = encodeChar (Char.ofNat code).toLower := by
      decide +kernel
    simpa [Char.ofNat_toNat] using folds ⟨c.toNat, ascii⟩
  · have same : c.toLower = c := by
      refine dif_neg ?_
      intro capital
      have : c.toNat ≤ 90 := capital.2
      omega
    rw [same, List.map_congr_left fun byte member =>
      foldCase_of_high (high_of_mem_encodeChar ascii member), List.map_id']

theorem map_foldCase_encode (text : List Char) :
    (encode text).map foldCase = encode (text.map Char.toLower) := by
  induction text with
  | nil => rfl
  | cons c rest ih =>
    rw [encode_cons, List.map_append, map_foldCase_encodeChar, ih, List.map_cons, encode_cons]

/-- Texts are the same up to the case of ASCII letters when they are with these made small. -/
theorem sameFolded_encode (left right : List Char) :
    sameFolded (encode left) (encode right) = true ↔
      left.map Char.toLower = right.map Char.toLower := by
  rw [sameFolded, decide_eq_true_eq, map_foldCase_encode, map_foldCase_encode, encode_inj]

end ScannerSettings

namespace Name

/-- The name begins with a dot. -/
def IsHidden (name : Name) : Prop :=
  name.head? = some Path.dot

end Name

namespace ScannerSettings

/-- The bytes spell the text up to the case of ASCII letters. -/
def SpellsLike (bytes : List UInt8) (text : String) : Prop :=
  ∃ spelled : String, Text.Utf8.encodeString spelled = bytes ∧
    spelled.toList.map Char.toLower = text.toList.map Char.toLower

/-- The name is one that is passed over: it is hidden, or one that is excluded. -/
def Skips (settings : ScannerSettings) (name : Name) : Prop :=
  name.IsHidden ∨ ∃ exclude ∈ settings.excludes, name = Text.Utf8.encodeString exclude

/-- The name is hidden, or the text that is shown for it is excluded. -/
def SkipsShown (settings : ScannerSettings) (name : Name) : Prop :=
  name.IsHidden ∨ ∃ exclude ∈ settings.excludes, Text.Utf8.decodeLossy name = exclude.toList

/-- The name is not UTF-8, so no text equals it, but the text that is shown for it is excluded. -/
def Masks (settings : ScannerSettings) (name : Name) : Prop :=
  Text.Utf8.decode? name = none ∧
    ∃ exclude ∈ settings.excludes, Text.Utf8.decodeLossy name = exclude.toList

/-- The name has the extension of a source file. -/
def Accepts (settings : ScannerSettings) (name : Name) : Prop :=
  ∃ extension, Path.extensionOfName? name = some extension ∧
    ∃ accepted ∈ settings.extensions, SpellsLike extension accepted

theorem skips_iff (settings : ScannerSettings) (name : Name) :
    settings.skips name = true ↔ settings.SkipsShown name := by
  have excluded : settings.excludes.contains (String.ofList (Text.Utf8.decodeLossy name)) = true ↔
      ∃ exclude ∈ settings.excludes, Text.Utf8.decodeLossy name = exclude.toList := by
    rw [List.contains_iff_mem]
    constructor
    · exact fun member => ⟨_, member, String.toList_ofList.symm⟩
    · rintro ⟨exclude, member, shown⟩
      rwa [shown, String.ofList_toList]
  rw [skips, Bool.or_eq_true, excluded, decide_eq_true_eq, Text.Utf8.head?_decodeLossy]
  rfl

theorem skipsShown_iff {settings : ScannerSettings} {name : Name} :
    settings.SkipsShown name ↔ settings.Skips name ∨ settings.Masks name := by
  constructor
  · rintro (hidden | ⟨exclude, member, shown⟩)
    · exact .inl (.inl hidden)
    · cases read : Text.Utf8.decode? name with
      | none => exact .inr ⟨read, exclude, member, shown⟩
      | some characters =>
        rw [Text.Utf8.decodeLossy_of_decode? read] at shown
        rw [shown] at read
        exact .inl (.inr ⟨exclude, member, (Text.Utf8.encode_of_decode? read).symm⟩)
  · rintro ((hidden | ⟨exclude, member, rfl⟩) | ⟨-, excluded⟩)
    · exact .inl hidden
    · exact .inr ⟨exclude, member, Text.Utf8.decodeLossy_encode exclude.toList⟩
    · exact .inr excluded

theorem acceptsExtension_iff (settings : ScannerSettings) (extension : List UInt8) :
    settings.acceptsExtension extension = true ↔
      ∃ accepted ∈ settings.extensions, SpellsLike extension accepted := by
  rw [acceptsExtension, Bool.and_eq_true, List.any_eq_true]
  constructor
  · rintro ⟨valid, accepted, member, same⟩
    obtain ⟨text, read⟩ := Option.isSome_iff_exists.mp valid
    rw [← Text.Utf8.encode_of_decode? read] at same ⊢
    refine ⟨accepted, member, String.ofList text, ?_, ?_⟩
    · rw [Text.Utf8.encodeString, String.toList_ofList]
    · rw [String.toList_ofList]
      exact ((sameFolded_encode accepted.toList text).mp same).symm
  · rintro ⟨accepted, member, spelled, rfl, same⟩
    refine ⟨?_, accepted, member, (sameFolded_encode _ _).mpr same.symm⟩
    rw [Text.Utf8.encodeString, Text.Utf8.decode?_encode]
    rfl

theorem acceptsName_iff (settings : ScannerSettings) (name : Name) :
    settings.acceptsName name = true ↔ settings.Accepts name := by
  rw [acceptsName, Accepts]
  cases Path.extensionOfName? name with
  | none => simp
  | some extension => simpa using settings.acceptsExtension_iff extension

end ScannerSettings

/-! ### Trees -/

namespace Folder

/-- Every name in the folder, and in every folder inside, is one that an entry of a directory can
have. -/
def Proper : Folder → Prop
  | .empty => True
  | .file name _ rest => Name.Proper name ∧ rest.Proper
  | .link name _ rest => Name.Proper name ∧ rest.Proper
  | .folder name inner rest => Name.Proper name ∧ inner.Proper ∧ rest.Proper

theorem proper_cons {name : Name} {entry : Entry} {rest : Folder} :
    (cons name entry rest).Proper ↔
      Name.Proper name ∧ (∀ inner, entry = .folder inner → inner.Proper) ∧ rest.Proper := by
  cases entry <;> simp [cons, Proper]

theorem Proper.of_find? {folder : Folder} (proper : folder.Proper) {name : Name} {entry : Entry}
    (found : folder.find? name = some entry) :
    Name.Proper name ∧ ∀ inner, entry = .folder inner → inner.Proper := by
  induction folder using consInduction with
  | empty => cases found
  | cons other present rest _ ih =>
    obtain ⟨named, within, proper⟩ := proper_cons.mp proper
    rw [find?_cons] at found
    split at found
    · next same =>
      cases found
      exact ⟨same ▸ named, within⟩
    · exact ih proper found

/-- Every way through the tree is made of such names. -/
theorem Proper.of_at? {folder : Folder} (proper : folder.Proper) {location : Location}
    {entry : Entry} (found : folder.at? location = some entry) :
    location.Proper ∧ ∀ inner, entry = .folder inner → inner.Proper := by
  induction location generalizing folder with
  | nil =>
    rw [at?_nil] at found
    cases found
    exact ⟨fun _ member => absurd member List.not_mem_nil,
      fun _ folder => Entry.folder.inj folder ▸ proper⟩
  | cons name rest ih =>
    cases rest with
    | nil =>
      rw [at?_singleton] at found
      obtain ⟨named, inside⟩ := proper.of_find? found
      exact ⟨fun other member => List.mem_singleton.mp member ▸ named, inside⟩
    | cons next rest =>
      obtain ⟨within, isFolder, below⟩ := at?_cons_isFolder found
      obtain ⟨named, inside⟩ := proper.of_find? isFolder
      obtain ⟨others, last⟩ := ih (inside within rfl) below
      refine ⟨fun other member => ?_, last⟩
      rcases List.mem_cons.mp member with rfl | member
      · exact named
      · exact others other member

theorem ordered_of_find? {folder inner : Folder} {name : Name} (ordered : folder.Ordered)
    (found : folder.find? name = some (.folder inner)) : inner.Ordered := by
  induction folder using consInduction with
  | empty => cases found
  | cons other entry rest _ ih =>
    obtain ⟨-, within, ordered⟩ := ordered_cons.mp ordered
    rw [find?_cons] at found
    split at found
    · cases found
      exact within
    · exact ih ordered found

theorem ordered_of_at? {folder inner : Folder} {location : Location} (ordered : folder.Ordered)
    (found : folder.at? location = some (.folder inner)) : inner.Ordered := by
  induction location generalizing folder with
  | nil =>
    rw [at?_nil] at found
    cases found
    exact ordered
  | cons name rest ih =>
    obtain ⟨next, isFolder, below⟩ := exists_folder_of_at?_cons found
    exact ih (ordered_of_find? ordered isFolder) below

theorem find?_eq_none {folder : Folder} {name : Name} (absent : name ∉ folder.names) :
    folder.find? name = none := by
  induction folder using consInduction with
  | empty => rfl
  | cons other entry rest _ ih => grind [find?_cons, names_cons]

end Folder

namespace ScannerSettings

/-- The location is that of a file, no name that is skipped leads to it, and its own name is one of
a source file. -/
structure Finds (settings : ScannerSettings) (skipped : Name → Prop) (folder : Folder)
    (location : Location) : Prop where
  isFile : ∃ content, folder.at? location = some (.file content)
  passes : ∀ name ∈ location, ¬ skipped name
  accepted : ∃ name, location.getLast? = some name ∧ settings.Accepts name

variable {settings : ScannerSettings} {skipped : Name → Prop}

theorem Finds.ne_nil {folder : Folder} {location : Location}
    (finds : settings.Finds skipped folder location) : location ≠ [] := by
  rintro rfl
  obtain ⟨name, last, -⟩ := finds.accepted
  cases last

/-- Whatever is found stands under a name of the folder. -/
theorem Finds.exists_cons {folder : Folder} {location : Location}
    (finds : settings.Finds skipped folder location) :
    ∃ name rest, location = name :: rest ∧ name ∈ folder.names := by
  obtain ⟨name, rest, rfl⟩ := List.exists_cons_of_ne_nil finds.ne_nil
  refine ⟨name, rest, rfl, Classical.byContradiction fun absent => ?_⟩
  obtain ⟨content, found⟩ := finds.isFile
  rw [Folder.at?, Folder.find?_eq_none absent] at found
  cases found

/-- What is found depends on what stands under its first name only. -/
theorem finds_congr {left right : Folder} {name : Name} (same : left.find? name = right.find? name)
    (rest : Location) :
    settings.Finds skipped left (name :: rest) ↔ settings.Finds skipped right (name :: rest) := by
  have entries := Folder.at?_cons_congr same rest
  exact
    ⟨fun finds => ⟨entries ▸ finds.isFile, finds.passes, finds.accepted⟩,
      fun finds => ⟨entries ▸ finds.isFile, finds.passes, finds.accepted⟩⟩

section First

variable {folder : Folder} {name : Name}

theorem finds_of_file {content : List UInt8} (found : folder.find? name = some (.file content))
    (rest : Location) :
    settings.Finds skipped folder (name :: rest) ↔
      rest = [] ∧ ¬ skipped name ∧ settings.Accepts name := by
  constructor
  · rintro ⟨⟨content, isFile⟩, passes, last, isLast, accepted⟩
    have single : rest = [] := by
      rw [Folder.at?, found] at isFile
      exact Classical.byContradiction fun more => by simp [more] at isFile
    subst single
    cases isLast
    exact ⟨rfl, passes name List.mem_cons_self, accepted⟩
  · rintro ⟨rfl, passes, accepted⟩
    refine ⟨⟨content, by rw [Folder.at?_singleton, found]⟩, ?_, name, rfl, accepted⟩
    intro other member
    rwa [List.mem_singleton.mp member]

theorem not_finds_of_link {target : Path} (found : folder.find? name = some (.link target))
    (rest : Location) : ¬ settings.Finds skipped folder (name :: rest) := by
  rintro ⟨⟨content, isFile⟩, -, -⟩
  rw [Folder.at?, found] at isFile
  by_cases single : rest = [] <;> simp [single] at isFile

theorem finds_of_folder {inner : Folder} (found : folder.find? name = some (.folder inner))
    (rest : Location) :
    settings.Finds skipped folder (name :: rest) ↔
      ¬ skipped name ∧ settings.Finds skipped inner rest := by
  have entries := Folder.at?_cons_of_folder found rest
  constructor
  · rintro ⟨⟨content, isFile⟩, passes, last, isLast, accepted⟩
    rw [entries] at isFile
    -- A folder is no file, so there are names behind its own.
    have more : rest ≠ [] := by
      rintro rfl
      rw [Folder.at?_nil] at isFile
      cases isFile
    rw [List.getLast?_cons_of_ne_nil more] at isLast
    exact ⟨passes name List.mem_cons_self, ⟨content, isFile⟩,
      fun other member => passes other (List.mem_cons_of_mem _ member), last, isLast, accepted⟩
  · rintro ⟨passes, finds⟩
    obtain ⟨last, isLast, accepted⟩ := finds.accepted
    refine ⟨entries ▸ finds.isFile, ?_, last, ?_, accepted⟩
    · intro other member
      rcases List.mem_cons.mp member with rfl | member
      · exact passes
      · exact finds.passes other member
    · rwa [List.getLast?_cons_of_ne_nil finds.ne_nil]

end First

/-- What is found with one more entry in front: what stands under its name, and what was found
without it. -/
theorem finds_cons (name : Name) (entry : Entry) {rest : Folder}
    (below : ∀ other ∈ rest.names, name < other) (location : Location) :
    settings.Finds skipped (Folder.cons name entry rest) location ↔
      (∃ inner, location = name :: inner ∧
        settings.Finds skipped (Folder.cons name entry rest) (name :: inner)) ∨
      settings.Finds skipped rest location := by
  have elsewhere : ∀ {other}, other ≠ name →
      (Folder.cons name entry rest).find? other = rest.find? other := fun different => by
    rw [Folder.find?_cons, if_neg (Ne.symm different)]
  constructor
  · intro finds
    obtain ⟨first, inner, rfl, -⟩ := finds.exists_cons
    by_cases same : first = name
    · exact .inl ⟨inner, by rw [same], same ▸ finds⟩
    · exact .inr ((finds_congr (elsewhere same) inner).mp finds)
  · rintro (⟨inner, rfl, finds⟩ | finds)
    · exact finds
    · obtain ⟨first, inner, rfl, member⟩ := finds.exists_cons
      have different : first ≠ name := fun same => List.lt_irrefl _ (same ▸ below first member)
      exact (finds_congr (elsewhere different) inner).mpr finds

/-- What the search lists of an entry. -/
def filesOf (settings : ScannerSettings) (name : Name) : Entry → List Location
  | .file _ => if !settings.skips name && settings.acceptsName name then [[name]] else []
  | .link _ => []
  | .folder inner =>
    if settings.skips name then [] else (settings.filesIn inner).map (name :: ·)

theorem filesIn_cons (name : Name) (entry : Entry) (rest : Folder) :
    settings.filesIn (.cons name entry rest) =
      settings.filesOf name entry ++ settings.filesIn rest := by
  cases entry with
  | link target => rfl
  | file content | folder inner =>
    rw [Folder.cons, filesIn, filesOf]
    split <;> rfl

/-- The search lists what is to be found and nothing else: a name that is passed over takes with it
just what stands under it. -/
theorem mem_filesIn {folder : Folder} (ordered : folder.Ordered) (location : Location) :
    location ∈ settings.filesIn folder ↔ settings.Finds settings.SkipsShown folder location := by
  induction folder using Folder.consInduction generalizing location with
  | empty =>
    refine ⟨fun member => absurd member List.not_mem_nil, fun finds => ?_⟩
    obtain ⟨name, rest, -, member⟩ := finds.exists_cons
    exact absurd member List.not_mem_nil
  | cons name entry rest inside ih =>
    obtain ⟨below, within, ordered⟩ := Folder.ordered_cons.mp ordered
    have found : (Folder.cons name entry rest).find? name = some entry := by
      rw [Folder.find?_cons, if_pos rfl]
    rw [filesIn_cons, List.mem_append, finds_cons name entry below, ih ordered]
    refine or_congr_left ?_
    cases entry with
    | file content =>
      simp only [finds_of_file found, ← skips_iff, ← acceptsName_iff, filesOf]
      split
      · next listed => simp_all
      · next unlisted => simp_all
    | link target => simp [not_finds_of_link found, filesOf]
    | folder inner =>
      simp only [finds_of_folder found, ← inside inner rfl within, ← skips_iff, filesOf]
      split
      · next skipped => simp [skipped]
      · next passes => simp [passes, eq_comm, and_comm]

/-! ### Order -/

/-- The location comes before the other one, the first names that differ deciding. -/
def Precedes (left right : Location) : Prop :=
  Path.compareSegments (left.map .name) (right.map .name) = .lt

theorem precedes_cons_self (name : Name) {left right : Location} :
    Precedes (name :: left) (name :: right) ↔ Precedes left right := by
  have same : (Path.Segment.name name).compare (.name name) = .eq := Std.ReflCmp.compare_self
  rw [Precedes, List.map_cons, List.map_cons, Path.compareSegments, same]
  rfl

theorem precedes_of_lt {name other : Name} (less : name < other) (left right : Location) :
    Precedes (name :: left) (other :: right) := by
  have before : (Path.Segment.name name).compare (.name other) = .lt := if_pos less
  rw [Precedes, List.map_cons, List.map_cons, Path.compareSegments, before]
  rfl

/-- Whatever is listed of an entry begins with its name. -/
theorem exists_of_mem_filesOf {name : Name} {entry : Entry} {location : Location}
    (member : location ∈ settings.filesOf name entry) : ∃ inner, location = name :: inner := by
  cases entry with
  | link target => cases member
  | file content =>
    rw [filesOf] at member
    split at member
    · exact ⟨[], List.mem_singleton.mp member⟩
    · cases member
  | folder inner =>
    rw [filesOf] at member
    split at member
    · cases member
    · obtain ⟨below, -, rfl⟩ := List.mem_map.mp member
      exact ⟨below, rfl⟩

/-- The search lists in ascending order, as the names of a folder ascend and with them what stands
under them. -/
theorem pairwise_filesIn {folder : Folder} (ordered : folder.Ordered) :
    (settings.filesIn folder).Pairwise Precedes := by
  induction folder using Folder.consInduction with
  | empty => exact .nil
  | cons name entry rest inside ih =>
    obtain ⟨below, within, ordered⟩ := Folder.ordered_cons.mp ordered
    rw [filesIn_cons, List.pairwise_append]
    refine ⟨?_, ih ordered, fun first member location later => ?_⟩
    · cases entry with
      | link target => exact .nil
      | file content =>
        rw [filesOf]
        split
        · exact List.pairwise_singleton _ _
        · exact .nil
      | folder inner =>
        rw [filesOf]
        split
        · exact .nil
        · exact List.pairwise_map.mpr
            ((inside inner rfl within).imp (precedes_cons_self name).mpr)
    -- What is found among later names comes after whatever stands under an earlier one.
    · obtain ⟨under, rfl⟩ := exists_of_mem_filesOf member
      obtain ⟨other, more, rfl, among⟩ := ((mem_filesIn ordered location).mp later).exists_cons
      exact precedes_of_lt (below other among) under more

/-! ### Paths -/

theorem parts_relativePath {location : Location} (proper : location.Proper)
    (named : location ≠ []) : Path.parts (relativePath location).bytes = location := by
  induction location with
  | nil => exact absurd rfl named
  | cons name rest ih =>
    have single := Path.parts_of_free (proper name List.mem_cons_self).free
    cases rest with
    | nil =>
      have spelled : (relativePath [name]).bytes = name := by simp [relativePath]
      rwa [spelled]
    | cons next rest =>
      have others := ih (fun other member => proper other (List.mem_cons_of_mem _ member))
        (List.cons_ne_nil _ _)
      have spelled : (relativePath (name :: next :: rest)).bytes =
          name ++ Path.separator :: (relativePath (next :: rest)).bytes := by
        simp [relativePath]
      rw [spelled, Path.parts_append, single, others, List.singleton_append]

theorem isAbsolute_relativePath {location : Location} (proper : location.Proper)
    (named : location ≠ []) : (relativePath location).isAbsolute = false := by
  have parts := parts_relativePath proper named
  rw [Bool.eq_false_iff]
  intro absolute
  obtain ⟨rest, spelled⟩ : ∃ rest, (relativePath location).bytes = Path.separator :: rest := by
    rw [Path.isAbsolute, decide_eq_true_eq] at absolute
    exact ⟨_, (List.head?_eq_some_iff.mp absolute).choose_spec⟩
  rw [spelled, Path.parts, if_pos rfl] at parts
  have empty := (proper [] (parts ▸ List.mem_cons_self)).segment
  cases empty

/-- The segments of the path of a location are its names. -/
theorem segments_relativePath {location : Location} (proper : location.Proper)
    (named : location ≠ []) : (relativePath location).segments = location.map .name := by
  obtain ⟨name, rest, rfl⟩ := List.exists_cons_of_ne_nil named
  have notHere : name ≠ [Path.dot] := by
    rintro rfl
    have here := (proper [Path.dot] List.mem_cons_self).segment
    cases here
  rw [Path.segments, isAbsolute_relativePath proper named, parts_relativePath proper named,
    if_neg Bool.false_ne_true]
  simp only [if_neg notHere]
  exact Location.filterMap_ofPart? proper

/-! ### The search -/

/-- The paths are those of the locations, from their folder: each is listed, nothing else is, and
they ascend. -/
structure Lists (found : Location → Prop) (paths : List Path) : Prop where
  exact : ∀ path, path ∈ paths ↔ ∃ location, found location ∧ relativePath location = path
  /-- A path leads along the names of its location. -/
  segments : ∀ location, found location →
    (relativePath location).isAbsolute = false ∧
      (relativePath location).segments = location.map .name
  ascending : paths.Pairwise fun left right => left.compare right = .lt

theorem Finds.segments {folder : Folder} (proper : folder.Proper) {location : Location}
    (finds : settings.Finds skipped folder location) :
    (relativePath location).isAbsolute = false ∧
      (relativePath location).segments = location.map .name := by
  obtain ⟨content, found⟩ := finds.isFile
  have names := (proper.of_at? found).1
  exact ⟨isAbsolute_relativePath names finds.ne_nil, segments_relativePath names finds.ne_nil⟩

/-- Different locations have different paths. -/
theorem Finds.eq_of_relativePath {folder : Folder} (proper : folder.Proper)
    {left right : Location} (first : settings.Finds skipped folder left)
    {otherSkipped : Name → Prop} (second : settings.Finds otherSkipped folder right)
    (same : relativePath left = relativePath right) : left = right := by
  have segments := congrArg Path.segments same
  rw [(first.segments proper).2, (second.segments proper).2] at segments
  exact List.map_injective_iff.mpr (fun _ _ => Path.Segment.name.inj) segments

section Scan

variable {disk : Disk} {root : Path} {folder : Folder}
  (leads : disk.entry root = .ok (.folder folder)) (settings : ScannerSettings)

include leads

theorem ordered_of_entry : folder.Ordered := by
  obtain ⟨location, -, found⟩ := exists_of_bind_eq_ok leads
  split at found
  · next entry there =>
    cases found
    exact Folder.ordered_of_at? disk.ordered there
  · cases found

theorem scan_of_folder :
    settings.scan disk root = (settings.filesIn folder).map relativePath := by
  rw [scan, leads]

theorem mem_scan (path : Path) :
    path ∈ settings.scan disk root ↔
      ∃ location, settings.Finds settings.SkipsShown folder location ∧
        relativePath location = path := by
  rw [scan_of_folder leads, List.mem_map]
  simp only [mem_filesIn (ordered_of_entry leads)]

theorem scan_lists_shown (proper : folder.Proper) :
    Lists (settings.Finds settings.SkipsShown folder) (settings.scan disk root) := by
  have ordered := ordered_of_entry leads
  refine ⟨mem_scan leads settings, fun _ finds => finds.segments proper, ?_⟩
  rw [scan_of_folder leads, List.pairwise_map]
  refine (pairwise_filesIn ordered).imp_of_mem fun {left right} first second precedes => ?_
  rw [Path.compare, (((mem_filesIn ordered left).mp first).segments proper).2,
    (((mem_filesIn ordered right).mp second).segments proper).2]
  exact precedes

end Scan

/-- What the directory `bin` of the disk below holds: `.g.vb`, `A.vb`, `B.vb` in a directory whose
name is not UTF-8, `obj/B.vb` and `s/C.VB`. -/
def binFolder : Folder :=
  .file [0x2E, 0x67, 0x2E, 0x76, 0x62] []
    (.file [0x41, 0x2E, 0x76, 0x62] []
      (.folder [0x61, 0xFF] (.file [0x42, 0x2E, 0x76, 0x62] [] .empty)
        (.folder [0x6F, 0x62, 0x6A] (.file [0x42, 0x2E, 0x76, 0x62] [] .empty)
          (.folder [0x73] (.file [0x43, 0x2E, 0x56, 0x42] [] .empty) .empty))))

/-- A disk with a directory whose name is excluded, and with the link `l` to it. -/
def linkedDisk : Disk :=
  ⟨.folder [0x62, 0x69, 0x6E] binFolder (.link [0x6C] ⟨[0x62, 0x69, 0x6E]⟩ .empty), [], by
    simp [binFolder, Folder.Ordered, Folder.names]; decide⟩

/-- Settings that exclude `a` with a replacement character behind it, too. -/
def maskingSettings : ScannerSettings :=
  { extensions := ["vb"], excludes := ["bin", "obj", "a\uFFFD"] }

end ScannerSettings

end ScanMerge
