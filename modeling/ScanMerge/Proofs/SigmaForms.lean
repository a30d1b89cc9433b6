import ScanMerge.Proofs.Classification
import ScanMerge.Proofs.EncodedTexts
import ScanMerge.Proofs.TextLines

/-!
Markers in lower case. A capital sigma has two lower-case forms, and what stands around it decides
which one it takes; any other character is lower-cased on its own. So a marker that stands in a line
is found there when its sigmas take the forms in the line that they take in the marker alone, and it
is found in every line just when nothing around it can change these forms.
-/

set_option autoImplicit false

namespace ScanMerge

namespace Text

/-! ### Lower-casing a part of a text -/

/-- The form of a capital sigma between two texts. -/
def sigmaForm (front back : List Char) : Char :=
  if meetsCased front.reverse && !meetsCased back then 'ς' else 'σ'

/-- Lower-cases a text that stands between two others. -/
def lowercaseBetween (front back : List Char) : List Char → List Char
  | [] => []
  | c :: rest =>
    (if c = 'Σ' then [sigmaForm front (rest ++ back)] else lowerChar c) ++
      lowercaseBetween (front ++ [c]) back rest

theorem lowercaseAfter_append (front text back : List Char) :
    lowercaseAfter front.reverse (text ++ back) =
      lowercaseBetween front back text ++ lowercaseAfter (front ++ text).reverse back := by
  induction text generalizing front with
  | nil => rw [List.append_nil, List.nil_append, lowercaseBetween, List.nil_append]
  | cons c rest ih =>
    have next : c :: front.reverse = (front ++ [c]).reverse := by
      rw [List.reverse_append, List.reverse_singleton, List.singleton_append]
    rw [List.cons_append, lowercaseAfter, next, ih, lowercaseBetween, List.append_assoc, sigmaForm,
      apply_ite (fun form : Char => [form]), List.append_assoc, List.singleton_append]

theorem lowercaseAfter_eq (front text : List Char) :
    lowercaseAfter front.reverse text = lowercaseBetween front [] text := by
  have whole := lowercaseAfter_append front text []
  rwa [List.append_nil, lowercaseAfter, List.append_nil] at whole

theorem lowercase_eq (text : List Char) : lowercase text = lowercaseBetween [] [] text :=
  lowercaseAfter_eq [] text

theorem lowercaseBetween_append (front back text more : List Char) :
    lowercaseBetween front back (text ++ more) =
      lowercaseBetween front (more ++ back) text ++ lowercaseBetween (front ++ text) back more := by
  induction text generalizing front with
  | nil => rw [List.nil_append, lowercaseBetween, List.nil_append, List.append_nil]
  | cons c rest ih =>
    rw [List.cons_append, lowercaseBetween, lowercaseBetween, ih, List.append_assoc,
      List.append_assoc, List.append_assoc, List.singleton_append]

/-- A part of a text is lower-cased between what stands around it. -/
theorem lowercase_around (front text back : List Char) :
    lowercase (front ++ text ++ back) =
      lowercaseBetween [] (text ++ back) front ++ lowercaseBetween front back text ++
        lowercaseBetween (front ++ text) [] back := by
  rw [lowercase_eq, lowercaseBetween_append, lowercaseBetween_append, List.append_nil,
    List.nil_append, List.nil_append]

/-- How a text is lower-cased in two surroundings: what relates the forms of its sigmas relates the
whole. -/
theorem lowercaseBetween_related (related : List Char → List Char → Prop)
    (refl : ∀ text, related text text)
    (append : ∀ {a b c d}, related a b → related c d → related (a ++ c) (b ++ d))
    {front back otherFront otherBack text : List Char}
    (forms : ∀ before behind, text = before ++ 'Σ' :: behind →
      related [sigmaForm (front ++ before) (behind ++ back)]
        [sigmaForm (otherFront ++ before) (behind ++ otherBack)]) :
    related (lowercaseBetween front back text) (lowercaseBetween otherFront otherBack text) := by
  induction text generalizing front otherFront with
  | nil => exact refl []
  | cons c rest ih =>
    refine append ?_ (ih fun before behind split => ?_)
    · split
      · next sigma =>
        have first := forms [] rest (by rw [sigma, List.nil_append])
        rwa [List.append_nil, List.append_nil] at first
      · exact refl _
    · have later := forms (c :: before) behind (by rw [split, List.cons_append])
      rwa [List.append_cons, List.append_cons otherFront] at later

/-! ### Surroundings that keep the forms -/

theorem meetsCased_cons (c : Char) (rest : List Char) :
    meetsCased (c :: rest) = if isCaseIgnorable c then meetsCased rest else isCased c := by
  by_cases ignorable : isCaseIgnorable c = true
  · rw [meetsCased, List.dropWhile_cons_of_pos ignorable, if_pos ignorable, meetsCased]
  · rw [meetsCased, List.dropWhile_cons_of_neg ignorable, if_neg ignorable]

/-- What follows a text is looked at only behind characters that are all case-ignorable. -/
theorem meetsCased_append (text more : List Char) :
    meetsCased (text ++ more) =
      if text.all isCaseIgnorable then meetsCased more else meetsCased text := by
  induction text with
  | nil => rfl
  | cons c rest ih =>
    rw [List.cons_append, meetsCased_cons, ih, meetsCased_cons, List.all_cons]
    cases isCaseIgnorable c <;> rfl

theorem meetsCased_of_all {text : List Char} (ignorable : text.all isCaseIgnorable = true) :
    meetsCased text = false := by
  have whole := meetsCased_append text []
  rwa [List.append_nil, if_pos ignorable] at whole

/-- The capital sigmas of a text take between two others the forms that they take in the text
alone. -/
def KeepsForms (front text back : List Char) : Prop :=
  ∀ before behind, text = before ++ 'Σ' :: behind →
    sigmaForm (front ++ before) (behind ++ back) = sigmaForm before behind

/-- Nothing around the text can change the forms of its capital sigmas. Where only case-ignorable
characters stand before one, it is not final by what stands behind it in the text; where only such
characters stand behind one, it is not final by what stands before it. -/
def IsSettled (text : List Char) : Prop :=
  ∀ before behind, text = before ++ 'Σ' :: behind →
    (before.all isCaseIgnorable = true → meetsCased behind = true) ∧
      (behind.all isCaseIgnorable = true → meetsCased before.reverse = false)

theorem isSettled_of_not_mem {text : List Char} (free : 'Σ' ∉ text) : IsSettled text := by
  rintro before behind rfl
  exact absurd (List.mem_append_right before List.mem_cons_self) free

theorem IsSettled.keepsForms {text : List Char} (settled : IsSettled text)
    (front back : List Char) : KeepsForms front text back := by
  intro before behind split
  obtain ⟨openFront, openBack⟩ := settled before behind split
  rw [sigmaForm, sigmaForm, List.reverse_append, meetsCased_append, meetsCased_append,
    List.all_reverse]
  by_cases ignorable : before.all isCaseIgnorable = true
  · have cased := openFront ignorable
    have blocked : ¬ behind.all isCaseIgnorable = true := fun all => by
      rw [meetsCased_of_all all] at cased
      cases cased
    simp only [cased, if_neg blocked, Bool.not_true, Bool.and_false]
  · rw [if_neg ignorable]
    by_cases ignorableBack : behind.all isCaseIgnorable = true
    · rw [openBack ignorableBack, Bool.false_and, Bool.false_and]
    · rw [if_neg ignorableBack]

theorem KeepsForms.lowercaseBetween_eq {front text back : List Char}
    (keeps : KeepsForms front text back) : lowercaseBetween front back text = lowercase text := by
  rw [lowercase_eq]
  refine lowercaseBetween_related Eq (fun _ => rfl) (fun same others => congrArg₂ _ same others) ?_
  intro before behind split
  rw [List.nil_append, List.append_nil, keeps before behind split]

/-- Where the forms are kept, the lower-case form of the text stands in that of the whole. -/
theorem KeepsForms.lowercase_within {front text back : List Char}
    (keeps : KeepsForms front text back) :
    lowercase text <:+: lowercase (front ++ text ++ back) := by
  rw [lowercase_around, keeps.lowercaseBetween_eq]
  exact List.infix_append _ _ _

/-! ### Surroundings that change a form -/

section Changes

variable {front back otherFront otherBack : List Char} {form : Char}

/-- Whatever takes the form in the first surroundings takes it in the second ones. -/
def Yields (form : Char) (front back otherFront otherBack : List Char) : Prop :=
  ∀ before behind, sigmaForm (front ++ before) (behind ++ back) = form →
    sigmaForm (otherFront ++ before) (behind ++ otherBack) = form

theorem Yields.count_le (yields : Yields form front back otherFront otherBack)
    (text : List Char) :
    (lowercaseBetween front back text).count form ≤
      (lowercaseBetween otherFront otherBack text).count form := by
  refine lowercaseBetween_related (fun a b => a.count form ≤ b.count form)
    (fun _ => Nat.le_refl _) ?_ ?_
  · intro a b c d first others
    rw [List.count_append, List.count_append]
    exact Nat.add_le_add first others
  · intro before behind _
    by_cases takes : sigmaForm (front ++ before) (behind ++ back) = form
    · rw [takes, yields before behind takes]
    · rw [List.count_eq_zero_of_not_mem (mt List.eq_of_mem_singleton (Ne.symm takes))]
      exact Nat.zero_le _

/-- A sigma that takes the form in the second surroundings only makes a difference. -/
theorem Yields.count_lt (yields : Yields form front back otherFront otherBack)
    {before behind : List Char} (misses : sigmaForm (front ++ before) (behind ++ back) ≠ form)
    (takes : sigmaForm (otherFront ++ before) (behind ++ otherBack) = form) :
    (lowercaseBetween front back (before ++ 'Σ' :: behind)).count form <
      (lowercaseBetween otherFront otherBack (before ++ 'Σ' :: behind)).count form := by
  -- The text is cut at the sigma: neither part loses the form, and the sigma gains it.
  have first : Yields form front ('Σ' :: behind ++ back) otherFront ('Σ' :: behind ++ otherBack) :=
    fun u v => by
      rw [← List.append_assoc, ← List.append_assoc]
      exact yields u (v ++ 'Σ' :: behind)
  have others : Yields form (front ++ before ++ ['Σ']) back (otherFront ++ before ++ ['Σ'])
      otherBack := fun u v => by
    rw [List.append_assoc, List.append_assoc, List.append_assoc, List.append_assoc]
    exact yields (before ++ (['Σ'] ++ u)) v
  have here : [sigmaForm (front ++ before) (behind ++ back)].count form = 0 :=
    List.count_eq_zero_of_not_mem (mt List.eq_of_mem_singleton (Ne.symm misses))
  rw [lowercaseBetween_append, lowercaseBetween_append, lowercaseBetween, lowercaseBetween,
    if_pos rfl, if_pos rfl, takes]
  simp only [List.count_append, here, List.count_singleton_self]
  have firstLe := first.count_le before
  have othersLe := others.count_le behind
  omega

end Changes

theorem not_within_of_count_lt {front text back : List Char} {form : Char}
    (fewer : (lowercaseBetween front back text).count form < (lowercase text).count form)
    (freeFront : form ∉ lowercaseBetween [] (text ++ back) front)
    (freeBack : form ∉ lowercaseBetween (front ++ text) [] back) :
    ¬ lowercase text <:+: lowercase (front ++ text ++ back) := by
  intro inside
  -- What stands in a text has no more of the form than the text has.
  have atMost := inside.sublist.count_le form
  rw [lowercase_around, List.count_append, List.count_append,
    List.count_eq_zero_of_not_mem freeFront, List.count_eq_zero_of_not_mem freeBack] at atMost
  omega

/-! A cased letter beside a text changes the form of a sigma that is not settled. -/

theorem meetsCased_letter : meetsCased ['A'] = true := by decide +kernel

theorem not_mem_lowercaseBetween_letter {form : Char} (different : form ≠ 'a')
    (front back : List Char) : form ∉ lowercaseBetween front back ['A'] :=
  mt List.eq_of_mem_singleton different

theorem sigmaForm_eq_final_iff {front back : List Char} :
    sigmaForm front back = 'ς' ↔ meetsCased front.reverse = true ∧ meetsCased back = false := by
  rw [sigmaForm]
  cases meetsCased front.reverse <;> cases meetsCased back <;> decide

theorem sigmaForm_eq_medial_iff {front back : List Char} :
    sigmaForm front back = 'σ' ↔ meetsCased front.reverse = false ∨ meetsCased back = true := by
  rw [sigmaForm]
  cases meetsCased front.reverse <;> cases meetsCased back <;> decide

theorem meetsCased_reverse_letter_append (before : List Char) :
    meetsCased (['A'] ++ before).reverse =
      if before.all isCaseIgnorable then true else meetsCased before.reverse := by
  rw [List.reverse_append, List.reverse_singleton, meetsCased_append, List.all_reverse,
    meetsCased_letter]

theorem meetsCased_append_letter (behind : List Char) :
    meetsCased (behind ++ ['A']) =
      if behind.all isCaseIgnorable then true else meetsCased behind := by
  rw [meetsCased_append, meetsCased_letter]

/-- A sigma that is not final behind the letter is not final without it. -/
theorem yields_behind_letter : Yields 'σ' ['A'] [] [] [] := by
  intro before behind takes
  rw [sigmaForm_eq_medial_iff, meetsCased_reverse_letter_append] at takes
  rw [sigmaForm_eq_medial_iff]
  refine takes.imp_left fun notCased => ?_
  split at notCased
  · cases notCased
  · exact notCased

/-- A sigma that is final before the letter is final without it. -/
theorem yields_before_letter : Yields 'ς' [] ['A'] [] [] := by
  intro before behind takes
  rw [sigmaForm_eq_final_iff, meetsCased_append_letter] at takes
  rw [sigmaForm_eq_final_iff, List.append_nil]
  refine takes.imp_right fun notCased => ?_
  split at notCased
  · cases notCased
  · exact notCased

/-- A text that is not settled stands in some line whose lower-case form does not hold that of the
text. -/
theorem exists_not_within {text : List Char} (unsettled : ¬ IsSettled text) :
    ∃ front back, '\n' ∉ front ++ back ∧ front ++ text ++ back ≠ [] ∧
      ¬ lowercase text <:+: lowercase (front ++ text ++ back) := by
  simp only [IsSettled, not_forall, Classical.not_and_iff_not_or_not] at unsettled
  obtain ⟨before, behind, rfl, ⟨ignorable, notCased⟩ | ⟨ignorable, cased⟩⟩ := unsettled
  · -- In front only the cased letter decides: behind it the sigma becomes final.
    refine ⟨['A'], [], by decide, List.cons_ne_nil _ _, ?_⟩
    have misses : sigmaForm (['A'] ++ before) (behind ++ []) ≠ 'σ' := by
      rw [Ne, sigmaForm_eq_medial_iff, meetsCased_reverse_letter_append, if_pos ignorable,
        List.append_nil]
      simpa using notCased
    have takes : sigmaForm ([] ++ before) (behind ++ []) = 'σ' := by
      rw [sigmaForm_eq_medial_iff, List.nil_append]
      exact .inl (meetsCased_of_all (by rwa [List.all_reverse]))
    have fewer := yields_behind_letter.count_lt misses takes
    rw [← lowercase_eq] at fewer
    exact not_within_of_count_lt fewer (not_mem_lowercaseBetween_letter (by decide) _ _)
      List.not_mem_nil
  · -- Behind only the cased letter decides: before it the sigma is no longer final.
    refine ⟨[], ['A'], by decide, List.append_ne_nil_of_right_ne_nil _ (List.cons_ne_nil _ _), ?_⟩
    have misses : sigmaForm ([] ++ before) (behind ++ ['A']) ≠ 'ς' := by
      rw [Ne, sigmaForm_eq_final_iff, meetsCased_append_letter, if_pos ignorable]
      simp
    have takes : sigmaForm ([] ++ before) (behind ++ []) = 'ς' := by
      rw [sigmaForm_eq_final_iff, List.nil_append, List.append_nil, meetsCased_of_all ignorable]
      exact ⟨Bool.not_eq_false _ ▸ cased, rfl⟩
    have fewer := yields_before_letter.count_lt misses takes
    rw [← lowercase_eq] at fewer
    exact not_within_of_count_lt fewer List.not_mem_nil
      (not_mem_lowercaseBetween_letter (by decide) _ _)

end Text

namespace Classifier

/-- Settings with one marker, for which the first line is searched. -/
def markerSettings (marker : String) : ClassifierSettings :=
  { generatedPatterns := [], generatedMarkers := [marker], headerLines := 1 }

/-- A marker is found where its sigmas keep their forms. -/
theorem generated_of_keepsForms {settings : ClassifierSettings} {path : Path}
    {content : List UInt8} {encoding : Text.Encoding} {text front back : List Char}
    {marker : String} (nonempty : marker ≠ "") (listed : marker ∈ settings.generatedMarkers)
    (decodes : encoding.decode? content = some text)
    (early : front ++ marker.toList ++ back ∈ (Text.lines text).take settings.headerLines)
    (keeps : Text.KeepsForms front marker.toList back) :
    ((ofSettings settings).classify path content encoding).generated = true :=
  (generated_ofSettings_iff decodes).mpr
    (.inr ⟨_, early, marker, listed, nonempty, keeps.lowercase_within⟩)

/-- A marker that is not settled is missed in a file of one line. -/
theorem exists_missed {marker : String} (whole : '\n' ∉ marker.toList)
    (unsettled : ¬ Text.IsSettled marker.toList) (path : Path) :
    ∃ (content : List UInt8) (line : List Char),
      Text.Encoding.utf8.decode? content = some line ∧ Text.lines line = [line] ∧
        marker.toList <:+: line ∧
          ((ofSettings (markerSettings marker)).classify path content .utf8).generated = false := by
  obtain ⟨front, back, wholeAround, nonempty, missing⟩ := Text.exists_not_within unsettled
  rw [List.mem_append, not_or] at wholeAround
  have wholeLine : '\n' ∉ front ++ marker.toList ++ back := by
    rw [List.mem_append, List.mem_append, not_or, not_or]
    exact ⟨⟨wholeAround.1, whole⟩, wholeAround.2⟩
  have single : Text.lines (front ++ marker.toList ++ back) = [front ++ marker.toList ++ back] := by
    rw [Text.lines_of_whole wholeLine, if_neg nonempty]
  have decodes := Text.Encoding.UnicodeForm.utf8.decode?_mark_append
    (front ++ marker.toList ++ back)
  refine ⟨_, _, decodes, single, ⟨front, back, rfl⟩, Bool.eq_false_iff.mpr fun generated => ?_⟩
  obtain covered | ⟨line, early, other, listed, -, inside⟩ :=
    (generated_ofSettings_iff decodes).mp generated
  · cases covered
  · rw [single] at early
    obtain rfl := List.eq_of_mem_singleton early
    obtain rfl := List.eq_of_mem_singleton listed
    exact missing inside

/-- A marker that stands in one of the first lines with its sigmas in the forms of the marker alone
is found there. Just the settled markers are found wherever they stand; the markers without a
capital sigma are among them. -/
theorem literal_marker_found {marker : String} (nonempty : marker ≠ "") :
    (∀ (settings : ClassifierSettings) (path : Path) (content : List UInt8)
        (encoding : Text.Encoding) (text front back : List Char),
      marker ∈ settings.generatedMarkers → encoding.decode? content = some text →
      front ++ marker.toList ++ back ∈ (Text.lines text).take settings.headerLines →
      Text.KeepsForms front marker.toList back →
        ((ofSettings settings).classify path content encoding).generated = true) ∧
      ('\n' ∉ marker.toList →
        (Text.IsSettled marker.toList ↔
          ∀ (settings : ClassifierSettings) (path : Path) (content : List UInt8)
            (encoding : Text.Encoding) (text : List Char),
            marker ∈ settings.generatedMarkers → encoding.decode? content = some text →
            (∃ line ∈ (Text.lines text).take settings.headerLines, marker.toList <:+: line) →
              ((ofSettings settings).classify path content encoding).generated = true)) ∧
      ('Σ' ∉ marker.toList → Text.IsSettled marker.toList) := by
  refine ⟨?_, fun whole => ⟨?_, ?_⟩, Text.isSettled_of_not_mem⟩
  · intro settings path content encoding text front back listed decodes early keeps
    exact generated_of_keepsForms nonempty listed decodes early keeps
  · intro settled settings path content encoding text listed decodes stands
    obtain ⟨_, early, front, back, rfl⟩ := stands
    exact generated_of_keepsForms nonempty listed decodes early (settled.keepsForms front back)
  · intro found
    by_contra unsettled
    obtain ⟨content, line, decodes, single, inside, missed⟩ :=
      exists_missed whole unsettled (.ofString "M.vb")
    have early : line ∈ (Text.lines line).take (markerSettings marker).headerLines := by
      rw [single]
      exact List.mem_singleton_self line
    have generated := found (markerSettings marker) (.ofString "M.vb") content .utf8 line
      (List.mem_singleton_self marker) decodes ⟨line, early, inside⟩
    rw [missed] at generated
    cases generated

/-- A street is found where its name ends the word, and is missed where the word goes on. -/
theorem literal_marker_found_street :
    "ΟΔΟΣ" ∈ (markerSettings "ΟΔΟΣ").generatedMarkers ∧ "ΟΔΟΣ" ≠ "" ∧
      Text.Encoding.utf8.decode? (Text.Utf8.encode "' ΟΔΟΣ 5".toList) = some "' ΟΔΟΣ 5".toList ∧
        Text.KeepsForms "' ".toList "ΟΔΟΣ".toList " 5".toList ∧
          ((ofSettings (markerSettings "ΟΔΟΣ")).classify (.ofString "M.vb")
            (Text.Utf8.encode "' ΟΔΟΣ 5".toList) .utf8).generated = true ∧
          ((ofSettings (markerSettings "ΟΔΟΣ")).classify (.ofString "M.vb")
            (Text.Utf8.encode "' ΟΔΟΣΑ 5".toList) .utf8).generated = false := by
  have listed : "ΟΔΟΣ" ∈ (markerSettings "ΟΔΟΣ").generatedMarkers := List.mem_singleton_self _
  have nonempty : "ΟΔΟΣ" ≠ "" := by decide
  have decodes : Text.Encoding.utf8.decode? (Text.Utf8.encode "' ΟΔΟΣ 5".toList) =
      some "' ΟΔΟΣ 5".toList := by decide +kernel
  have keeps : Text.KeepsForms "' ".toList "ΟΔΟΣ".toList " 5".toList := by
    intro before behind split
    have cut : "ΟΔΟ".toList ++ 'Σ' :: [] = before ++ 'Σ' :: behind := split
    obtain ⟨rfl, -, rfl⟩ := (List.append_cons_inj_of_notMem (by decide) (by decide)).mp cut
    decide +kernel
  have early : "' ".toList ++ "ΟΔΟΣ".toList ++ " 5".toList ∈
      (Text.lines "' ΟΔΟΣ 5".toList).take (markerSettings "ΟΔΟΣ").headerLines := by
    decide
  refine ⟨listed, nonempty, decodes, keeps, ?_, by decide +kernel⟩
  exact (literal_marker_found nonempty).1 _ _ _ _ _ _ _ listed decodes early keeps

end Classifier

end ScanMerge
