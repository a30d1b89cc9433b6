import Mathlib.Data.List.Forall2
import Mathlib.Data.List.TakeWhile
import ScanMerge.FileUrl
import ScanMerge.Proofs.Paths

/-!
Paths that are written as `file:` URLs. A URL that percent-encodes what is not plain in the names on
the way to a file is read back as the path to that file, whatever bytes the names hold.
-/

set_option autoImplicit false

namespace ScanMerge.FileUrl

/-! ### Percent encoding -/

/-- The byte stands for itself in a URL: it is an ASCII letter, a digit, or one of `-._~`. -/
def isUnreserved (byte : UInt8) : Bool :=
  (Char.ofNat byte.toNat).isAlphanum || "-._~".toList.contains (Char.ofNat byte.toNat)

/-- A hexadecimal digit of the value, in either case. -/
def IsHexDigit (value : Nat) (c : Char) : Prop :=
  c = upperHexDigit value ∨ c = (upperHexDigit value).toLower

/-- A text spells bytes: each one as it is, when it is unreserved, or in percent encoding. -/
inductive Spells : List UInt8 → List Char → Prop
  | nil : Spells [] []
  | plain {byte : UInt8} {bytes : List UInt8} {rest : List Char}
    (unreserved : isUnreserved byte = true) (others : Spells bytes rest) :
    Spells (byte :: bytes) (Char.ofNat byte.toNat :: rest)
  | encoded {byte : UInt8} {bytes : List UInt8} {high low : Char} {rest : List Char}
    (highDigit : IsHexDigit (byte.toNat / 16) high) (lowDigit : IsHexDigit (byte.toNat % 16) low)
    (others : Spells bytes rest) : Spells (byte :: bytes) ('%' :: high :: low :: rest)

theorem hexValue?_of_isHexDigit {value : Nat} (small : value < 16) {c : Char}
    (digit : IsHexDigit value c) : hexValue? c = some value := by
  have all : ∀ value : Fin 16, hexValue? (upperHexDigit value) = some value.val ∧
      hexValue? (upperHexDigit value).toLower = some value.val := by decide
  rcases digit with rfl | rfl
  · exact (all ⟨value, small⟩).1
  · exact (all ⟨value, small⟩).2

/-- The character stands in the path of a URL as it is, and cuts it nowhere. -/
def isInner (c : Char) : Bool :=
  isPlain c && !isSlash c && !endsPath c && c != ':'

theorem isInner_of_isHexDigit {value : Nat} (small : value < 16) {c : Char}
    (digit : IsHexDigit value c) : isInner c = true := by
  have all : ∀ value : Fin 16, isInner (upperHexDigit value) = true ∧
      isInner (upperHexDigit value).toLower = true := by decide
  rcases digit with rfl | rfl
  · exact (all ⟨value, small⟩).1
  · exact (all ⟨value, small⟩).2

/-- What is known of an unreserved byte. -/
theorem unreserved_facts {byte : UInt8} (unreserved : isUnreserved byte = true) :
    isInner (Char.ofNat byte.toNat) = true ∧ Char.ofNat byte.toNat ≠ '%' ∧
      Text.Utf8.encodeChar (Char.ofNat byte.toNat) = [byte] := by
  have all : ∀ byte : Fin 256, isUnreserved (UInt8.ofNat byte) = true →
      isInner (Char.ofNat byte) = true ∧ Char.ofNat byte ≠ '%' ∧
        Text.Utf8.encodeChar (Char.ofNat byte) = [UInt8.ofNat byte] := by decide +kernel
  have own := all ⟨byte.toNat, byte.toNat_lt⟩
  simp only [UInt8.ofNat_toNat] at own
  exact own unreserved

/-! ### Spelled names -/

section Spells

variable {bytes : List UInt8} {text : List Char}

theorem high_lt (byte : UInt8) : byte.toNat / 16 < 16 :=
  Nat.div_lt_of_lt_mul byte.toNat_lt

theorem low_lt (byte : UInt8) : byte.toNat % 16 < 16 :=
  Nat.mod_lt _ (by decide)

theorem Spells.inner (spells : Spells bytes text) : ∀ c ∈ text, c = '%' ∨ isInner c = true := by
  induction spells with
  | nil => exact fun c member => absurd member List.not_mem_nil
  | plain unreserved others ih =>
    exact List.forall_mem_cons.mpr ⟨.inr (unreserved_facts unreserved).1, ih⟩
  | encoded highDigit lowDigit others ih =>
    have highInner := isInner_of_isHexDigit (high_lt _) highDigit
    have lowInner := isInner_of_isHexDigit (low_lt _) lowDigit
    exact List.forall_mem_cons.mpr ⟨.inl rfl, List.forall_mem_cons.mpr ⟨.inr highInner,
      List.forall_mem_cons.mpr ⟨.inr lowInner, ih⟩⟩⟩

/-- What spells bytes is decoded to them. -/
theorem percentDecode_spells (spells : Spells bytes text) : percentDecode text = bytes := by
  induction spells with
  | nil => rfl
  | plain unreserved others ih =>
    obtain ⟨-, notPercent, encodes⟩ := unreserved_facts unreserved
    rw [percentDecode, encodes, ih, List.singleton_append]
    exact fun high low others starts => absurd starts notPercent
  | encoded highDigit lowDigit others ih =>
    have high := hexValue?_of_isHexDigit (high_lt _) highDigit
    have low := hexValue?_of_isHexDigit (low_lt _) lowDigit
    simp only [percentDecode, high, low, ih]
    rw [Nat.div_add_mod, UInt8.ofNat_toNat]

/-- A byte whose encoding is taken for a dot is one. -/
theorem eq_dot_of_encoded {byte : UInt8} {high low : Char}
    (highDigit : IsHexDigit (byte.toNat / 16) high) (lowDigit : IsHexDigit (byte.toNat % 16) low)
    (two : high = '2') (isE : low = 'e' ∨ low = 'E') : byte = Path.dot := by
  have highValue := hexValue?_of_isHexDigit (high_lt byte) highDigit
  have lowValue := hexValue?_of_isHexDigit (low_lt byte) lowDigit
  have first : hexValue? high = some 2 := two ▸ by decide
  have second : hexValue? low = some 14 := by rcases isE with rfl | rfl <;> decide
  have quotient : 2 = byte.toNat / 16 := Option.some.inj (first.symm.trans highValue)
  have remainder : 14 = byte.toNat % 16 := Option.some.inj (second.symm.trans lowValue)
  have value : byte.toNat = 0x2E := by omega
  exact UInt8.toNat_inj.mp value

/-- Only dots are spelled by what resolves to dots, encoded or not. -/
theorem resolveDots_spells (spells : Spells bytes text) {count : Nat}
    (dots : resolveDots text = List.replicate count '.') :
    bytes = List.replicate count Path.dot := by
  induction spells generalizing count with
  | nil =>
    have none : count = 0 := by simpa [resolveDots] using dots.symm
    rw [none]
    rfl
  | @plain byte bytes rest unreserved others ih =>
    obtain ⟨-, notPercent, encodes⟩ := unreserved_facts unreserved
    rw [resolveDots] at dots
    · cases count with
      | zero => cases dots
      | succ count =>
        obtain ⟨isDot, dots⟩ := List.cons.inj dots
        rw [isDot] at encodes
        rw [ih dots, ← (List.cons.inj encodes).1]
        rfl
    · exact fun others starts => absurd starts notPercent
    · exact fun others starts => absurd starts notPercent
  | @encoded byte bytes high low rest highDigit lowDigit others ih =>
    by_cases dotted : high = '2' ∧ (low = 'e' ∨ low = 'E')
    · obtain ⟨two, isE⟩ := dotted
      have isDot := eq_dot_of_encoded highDigit lowDigit two isE
      have resolved : resolveDots ('%' :: high :: low :: rest) = '.' :: resolveDots rest := by
        rcases isE with rfl | rfl <;> rw [two] <;> rfl
      rw [resolved] at dots
      cases count with
      | zero => cases dots
      | succ count => rw [isDot, ih (List.cons.inj dots).2, List.replicate_succ]
    · rw [resolveDots] at dots
      · cases count with
        | zero => cases dots
        | succ count => cases (List.cons.inj dots).1
      · rintro others - starts
        obtain ⟨two, starts⟩ := List.cons.inj starts
        exact dotted ⟨two, .inl (List.cons.inj starts).1⟩
      · rintro others - starts
        obtain ⟨two, starts⟩ := List.cons.inj starts
        exact dotted ⟨two, .inr (List.cons.inj starts).1⟩

end Spells

/-! ### The path of a URL -/

/-- A text spells a name that a file can have: it holds nothing that a URL is cut at, and it neither
stays nor goes up. -/
structure IsSegment (text : List Char) : Prop where
  inner : ∀ c ∈ text, c = '%' ∨ isInner c = true
  named : text ≠ []
  stays : isSingleDot text = false
  goesUp : isDoubleDot text = false

theorem Spells.isSegment {name : Name} {text : List Char} (proper : name.Proper)
    (spells : Spells name text) : IsSegment text where
  inner := spells.inner
  named := by
    rintro rfl
    cases percentDecode_spells spells
    cases proper.segment
  stays := by
    rw [isSingleDot, decide_eq_false_iff_not]
    intro resolved
    have dots : name = List.replicate 1 Path.dot := resolveDots_spells spells resolved
    rw [dots] at proper
    cases proper.segment
  goesUp := by
    rw [isDoubleDot, decide_eq_false_iff_not]
    intro resolved
    have dots : name = List.replicate 2 Path.dot := resolveDots_spells spells resolved
    rw [dots] at proper
    cases proper.segment

theorem encodedChar_of_inner {c : Char} (inner : c = '%' ∨ isInner c = true) :
    encodedChar c = [c] := by
  rcases inner with rfl | inner
  · decide
  · have plain : isPlain c = true := by
      simp only [isInner, Bool.and_eq_true] at inner
      exact inner.1.1.1
    rw [encodedChar, if_pos plain]

theorem IsSegment.flatMap_encodedChar {text : List Char} (segment : IsSegment text) :
    text.flatMap encodedChar = text := by
  have same : text.map encodedChar = text.map ([·]) :=
    List.map_congr_left fun c member => encodedChar_of_inner (segment.inner c member)
  rw [List.flatMap_def, same, ← List.flatMap_def, List.flatMap_singleton']

theorem isSlash_of_inner {c : Char} (inner : c = '%' ∨ isInner c = true) : isSlash c = false := by
  rcases inner with rfl | inner
  · decide
  · simp only [isInner, Bool.and_eq_true, Bool.not_eq_true'] at inner
    exact inner.1.1.2

theorem splitSlashes_append {text : List Char} (free : ∀ c ∈ text, isSlash c = false)
    (rest : List Char) : splitSlashes (text ++ '/' :: rest) = text :: splitSlashes rest := by
  induction text with
  | nil => rfl
  | cons c text ih =>
    have others := ih fun other member => free other (List.mem_cons_of_mem _ member)
    rw [List.cons_append, splitSlashes, others, free c List.mem_cons_self]
    rfl

theorem splitSlashes_of_free {text : List Char} (free : ∀ c ∈ text, isSlash c = false) :
    splitSlashes text = [text] := by
  induction text with
  | nil => rfl
  | cons c text ih =>
    have others := ih fun other member => free other (List.mem_cons_of_mem _ member)
    rw [splitSlashes, others, free c List.mem_cons_self]
    rfl

theorem splitSlashes_intercalate {first : List Char} {others : List (List Char)}
    (segments : ∀ segment ∈ first :: others, IsSegment segment) :
    splitSlashes (['/'].intercalate (first :: others)) = first :: others := by
  induction others generalizing first with
  | nil =>
    have segment := segments first List.mem_cons_self
    simpa using splitSlashes_of_free fun c member => isSlash_of_inner (segment.inner c member)
  | cons next rest ih =>
    have segment := segments first List.mem_cons_self
    rw [List.intercalate_cons_cons, List.append_assoc, List.singleton_append,
      splitSlashes_append fun c member => isSlash_of_inner (segment.inner c member),
      ih fun other member => segments other (List.mem_cons_of_mem _ member)]

/-- A walk over segments that neither stay nor go up comes past all of them. -/
theorem walk_of_isSegment (before : List (List Char)) {first : List Char}
    {others : List (List Char)} (segments : ∀ segment ∈ first :: others, IsSegment segment) :
    walk before (first :: others) = before ++ first :: others := by
  induction others generalizing before first with
  | nil =>
    have segment := segments first List.mem_cons_self
    rw [walk, segment.goesUp, segment.stays]
    rfl
  | cons next rest ih =>
    have segment := segments first List.mem_cons_self
    rw [walk, segment.goesUp, segment.stays, if_neg Bool.false_ne_true, if_neg Bool.false_ne_true,
      ih _ fun other member => segments other (List.mem_cons_of_mem _ member), List.append_assoc]
    rfl

/-- The path of a local URL spells its segments. -/
theorem pathOf_intercalate {segments : List (List Char)}
    (proper : ∀ segment ∈ segments, IsSegment segment) :
    pathOf none [] ('/' :: ['/'].intercalate segments) =
      ⟨if segments = [] then [Path.separator] else spell segments⟩ := by
  cases segments with
  | nil => decide
  | cons first others =>
    have cut : encodedSegments ('/' :: ['/'].intercalate (first :: others)) =
        [] :: first :: others := by
      rw [encodedSegments, splitSlashes, if_pos (by decide), splitSlashes_intercalate proper,
        List.map_cons, List.flatMap_nil,
        List.map_congr_left fun segment member => (proper segment member).flatMap_encodedChar,
        List.map_id']
    have named : first ≠ [] := (proper first List.mem_cons_self).named
    have walked : walk [] ([] :: first :: others) = [] :: first :: others := by
      rw [walk, if_neg (by decide), if_neg (by decide), walk_of_isSegment _ proper]
      rfl
    rw [pathOf, cut, walked]
    simp [dropEmptyFront, named]

/-- The bytes that segments spell, but for a slash after a drive letter. -/
theorem spell_cases (segments : List (List Char)) :
    spell segments = segments.flatMap (fun segment => Path.separator :: percentDecode segment) ∨
      spell segments =
        segments.flatMap (fun segment => Path.separator :: percentDecode segment) ++
          [Path.separator] := by
  rw [spell]
  split
  · split
    · exact .inr rfl
    · exact .inl rfl
  · exact .inl rfl

theorem isSegment_of_spelled {location : Location} (proper : location.Proper)
    {segments : List (List Char)} (spelled : List.Forall₂ Spells location segments) :
    ∀ segment ∈ segments, IsSegment segment := by
  induction spelled with
  | nil => exact fun segment member => absurd member List.not_mem_nil
  | cons first others ih =>
    refine List.forall_mem_cons.mpr ⟨first.isSegment (proper _ List.mem_cons_self), ih ?_⟩
    exact fun name member => proper name (List.mem_cons_of_mem _ member)

theorem map_percentDecode_of_spelled {location : Location} {segments : List (List Char)}
    (spelled : List.Forall₂ Spells location segments) : segments.map percentDecode = location := by
  induction spelled with
  | nil => rfl
  | cons first others ih => rw [List.map_cons, percentDecode_spells first, ih]

/-- Segments that spell the names on the way to a location spell its path. -/
theorem pathOf_same {location : Location} (proper : location.Proper) {segments : List (List Char)}
    (spelled : List.Forall₂ Spells location segments) :
    (pathOf none [] ('/' :: ['/'].intercalate segments)).same location.path = true := by
  have areSegments := isSegment_of_spelled proper spelled
  obtain rfl := map_percentDecode_of_spelled spelled
  rw [pathOf_intercalate areSegments]
  cases segments with
  | nil => exact Path.same_self _
  | cons first others =>
    have bytes :
        (first :: others).flatMap (fun segment => Path.separator :: percentDecode segment) =
          (Location.path ((first :: others).map percentDecode)).bytes := by
      rw [List.map_cons, Location.path, ← List.map_cons, List.flatMap_map]
    rw [if_neg (by simp)]
    rcases spell_cases (first :: others) with spelling | spelling
    · rw [spelling, bytes]
      exact Path.same_self _
    · rw [spelling, bytes, Path.same_append_separator (Location.isAbsolute_path _)]

/-! ### Reading a URL -/

theorem significant_of_visible {text : List Char} (visible : ∀ c ∈ text, 0x20 < c.toNat) :
    significant text = text := by
  have kept : ∀ {text : List Char}, (∀ c ∈ text, 0x20 < c.toNat) →
      text.dropWhile isControlOrSpace = text := by
    intro text visible
    cases text with
    | nil => rfl
    | cons c rest =>
      have first := visible c List.mem_cons_self
      exact List.dropWhile_cons_of_neg (by simp [isControlOrSpace, first])
  have counts : ∀ c ∈ text, (!isIgnored c) = true := by
    intro c member
    have above := visible c member
    rw [Bool.not_eq_true', ← Bool.not_eq_true]
    intro ignored
    simp only [isIgnored, Bool.or_eq_true, decide_eq_true_eq] at ignored
    rcases ignored with (rfl | rfl) | rfl <;> revert above <;> decide
  have reversed : ∀ c ∈ text.reverse, 0x20 < c.toNat :=
    fun c member => visible c (List.mem_reverse.mp member)
  rw [significant, kept visible, kept reversed, List.reverse_reverse,
    List.filter_eq_self.mpr counts]

/-- The host of a URL that leads to this machine. -/
def IsLocal (host : List Char) : Prop :=
  host = [] ∨ host = "localhost".toList

/-- The text writes the path with the given names as a `file:` URL. -/
def IsFileUrl (names : List Name) (url : String) : Prop :=
  ∃ scheme host segments, scheme.map Char.toLower = "file".toList ∧ IsLocal host ∧
    List.Forall₂ Spells names segments ∧
    url.toList = scheme ++ "://".toList ++ host ++ '/' :: ['/'].intercalate segments

/-- A byte as a URL spells it, in upper case where it is encoded. -/
def spellByte (byte : UInt8) : List Char :=
  if isUnreserved byte then [Char.ofNat byte.toNat] else percentByte byte

theorem spells_flatMap_spellByte (bytes : List UInt8) : Spells bytes (bytes.flatMap spellByte) := by
  induction bytes with
  | nil => exact .nil
  | cons byte rest ih =>
    rw [List.flatMap_cons, spellByte]
    split
    · next unreserved => exact .plain unreserved ih
    · exact .encoded (.inl rfl) (.inl rfl) ih

/-- Any names can be written as a `file:` URL. -/
theorem exists_isFileUrl (names : List Name) : ∃ url, IsFileUrl names url := by
  refine ⟨String.ofList ("file:///".toList ++
    ['/'].intercalate (names.map fun name => name.flatMap spellByte)), "file".toList, [],
    names.map fun name => name.flatMap spellByte, by decide, .inl rfl, ?_, String.toList_ofList⟩
  induction names with
  | nil => exact .nil
  | cons name rest ih => exact .cons (spells_flatMap_spellByte name) ih

theorem pathAfterSlashes?_of_isLocal {host path : List Char} (isLocal : IsLocal host)
    (inner : ∀ c ∈ path, endsPath c = false) :
    pathAfterSlashes? (host ++ '/' :: path) = some (pathOf none [] ('/' :: path)) := by
  have whole : ('/' :: path).takeWhile (fun c => !endsPath c) = '/' :: path := by
    rw [List.takeWhile_eq_self_iff]
    intro c member
    rcases List.mem_cons.mp member with rfl | member
    · decide
    · rw [inner c member]
      rfl
  have onlyHost : (host ++ '/' :: path).takeWhile (fun c => !isSlash c && !endsPath c) = host := by
    rw [List.takeWhile_append_of_pos]
    · rw [List.takeWhile_cons_of_neg (by decide), List.append_nil]
    · rcases isLocal with rfl | rfl <;> exact List.all_eq_true.mp (by decide)
  rw [pathAfterSlashes?, onlyHost, List.drop_left, whole]
  rcases isLocal with rfl | rfl
  · rfl
  · have here : Host.ofText? "localhost".toList = some .localhost := by decide +kernel
    rw [if_neg (by decide), if_neg (by decide), here]
    rfl

theorem mem_intercalate {segments : List (List Char)} {c : Char}
    (member : c ∈ ['/'].intercalate segments) : c = '/' ∨ ∃ segment ∈ segments, c ∈ segment := by
  induction segments with
  | nil => cases member
  | cons first others ih =>
    cases others with
    | nil =>
      rw [List.intercalate_singleton] at member
      exact .inr ⟨first, List.mem_cons_self, member⟩
    | cons next rest =>
      rw [List.intercalate_cons_cons, List.mem_append, List.mem_append,
        List.mem_singleton] at member
      rcases member with (member | rfl) | member
      · exact .inr ⟨first, List.mem_cons_self, member⟩
      · exact .inl rfl
      · rcases ih member with slash | ⟨segment, listed, member⟩
        · exact .inl slash
        · exact .inr ⟨segment, List.mem_cons_of_mem _ listed, member⟩

/-- What stands in the path of a URL is visible and cuts it nowhere. -/
theorem visible_of_inner {c : Char} (inner : c = '/' ∨ c = '%' ∨ isInner c = true) :
    0x20 < c.toNat ∧ endsPath c = false := by
  rcases inner with rfl | rfl | inner
  · decide
  · decide
  · simp only [isInner, isPlain, Bool.and_eq_true, decide_eq_true_eq, Bool.not_eq_true'] at inner
    exact ⟨inner.1.1.1.1.1.1.1, inner.1.2⟩

/-- A character with a visible lower case is visible. -/
theorem visible_of_toLower {c : Char} (visible : 0x20 < c.toLower.toNat) : 0x20 < c.toNat := by
  by_contra hidden
  have kept : c.toLower = c := by
    refine dif_neg ?_
    rintro ⟨upper, -⟩
    have code : 65 ≤ c.toNat := upper
    omega
  rw [kept] at visible
  exact hidden visible

/-- A `file:` URL leads back to the path that it writes. -/
theorem ofUri_same_of_isFileUrl {location : Location} (proper : location.Proper) {url : String}
    (written : IsFileUrl location url) : (Path.ofUri url).same location.path = true := by
  obtain ⟨scheme, host, segments, isFile, isLocal, spelled, text⟩ := written
  have areSegments := isSegment_of_spelled proper spelled
  have inner : ∀ c ∈ ['/'].intercalate segments, c = '/' ∨ c = '%' ∨ isInner c = true := by
    intro c member
    rcases mem_intercalate member with slash | ⟨segment, listed, member⟩
    · exact .inl slash
    · exact .inr ((areSegments segment listed).inner c member)
  have four : scheme.length = 4 := by simpa using congrArg List.length isFile
  have visible : ∀ c ∈ url.toList, 0x20 < c.toNat := by
    intro c member
    rw [text, List.mem_append, List.mem_append, List.mem_append, List.mem_cons] at member
    rcases member with ((member | member) | member) | rfl | member
    · have lower : c.toLower ∈ "file".toList := isFile ▸ List.mem_map_of_mem member
      have all : ∀ c ∈ "file".toList, 0x20 < c.toNat := by simp
      exact visible_of_toLower (all _ lower)
    · have all : ∀ c ∈ "://".toList, 0x20 < c.toNat := by simp
      exact all c member
    · have all : ∀ c ∈ "localhost".toList, 0x20 < c.toNat := by simp
      rcases isLocal with rfl | rfl
      · cases member
      · exact all c member
    · decide
    · exact (visible_of_inner (inner c member)).1
  have after : afterScheme? url.toList =
      some ('/' :: '/' :: (host ++ '/' :: ['/'].intercalate segments)) := by
    have split : url.toList =
        (scheme ++ [':']) ++ '/' :: '/' :: (host ++ '/' :: ['/'].intercalate segments) := by
      rw [text]
      simp
    have five : (scheme ++ [':']).length = 5 := by simp [four]
    rw [afterScheme?, split, List.take_left' five, List.drop_left' five, List.map_append, isFile]
    rfl
  have path : path? url.toList = some (pathOf none [] ('/' :: ['/'].intercalate segments)) := by
    rw [path?, significant_of_visible visible, after, Option.bind_some, pathAfterScheme?,
      if_pos (by decide), pathAfterSlashes?_of_isLocal isLocal fun c member =>
        (visible_of_inner (inner c member)).2]
  rw [Path.ofUri, path]
  exact pathOf_same proper spelled

/-- Names that look like a drive, hold marks of URLs and a backslash, or are no UTF-8, written with
digits in either case. -/
theorem ofUri_same_of_oddNames :
    let location : Location := [[0x43, 0x7C], [0x25, 0x23, 0x3F, 0x5C], [0xFF, 0x2E]]
    location.Proper ∧ IsFileUrl location "FILE://localhost/C%7c/%25%23%3f%5C/%fF." ∧
      (Path.ofUri "FILE://localhost/C%7c/%25%23%3f%5C/%fF.").same location.path = true := by
  intro location
  have proper : location.Proper := by
    intro name member
    simp only [location, List.mem_cons, List.not_mem_nil, or_false] at member
    rcases member with rfl | rfl | rfl <;> exact ⟨by decide, by decide⟩
  have drive : Spells [0x43, 0x7C] "C%7c".toList :=
    .plain (by decide) (.encoded (.inl (by decide)) (.inr (by decide)) .nil)
  have marks : Spells [0x25, 0x23, 0x3F, 0x5C] "%25%23%3f%5C".toList :=
    .encoded (.inl (by decide)) (.inl (by decide)) <|
      .encoded (.inl (by decide)) (.inl (by decide)) <|
        .encoded (.inl (by decide)) (.inr (by decide)) <|
          .encoded (.inl (by decide)) (.inl (by decide)) .nil
  have noText : Spells [0xFF, 0x2E] "%fF.".toList :=
    .encoded (.inr (by decide)) (.inl (by decide)) (.plain (by decide) .nil)
  have written : IsFileUrl location "FILE://localhost/C%7c/%25%23%3f%5C/%fF." :=
    ⟨"FILE".toList, "localhost".toList, ["C%7c".toList, "%25%23%3f%5C".toList, "%fF.".toList],
      by decide, .inr rfl, .cons drive (.cons marks (.cons noText .nil)), by decide⟩
  exact ⟨proper, written, ofUri_same_of_isFileUrl proper written⟩

end ScanMerge.FileUrl
