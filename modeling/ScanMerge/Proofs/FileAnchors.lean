import ScanMerge.Proofs.FoundSources
import ScanMerge.Proofs.IssueSections
import ScanMerge.Proofs.PathQueries
import ScanMerge.Proofs.WellFormedResults
import ScanMerge.Proofs.WrittenReports

/-!
Where the links of a report lead. The part of a file has an anchor that is made of the file's name:
some marks are merged and capitals lowered. So two files can share an anchor, and the links to both
lead to the part that comes first.
-/

set_option autoImplicit false

namespace ScanMerge

namespace Text

/-! ### Lower case, character by character -/

theorem lowercase_of_not_mem {text : List Char} (noSigma : 'Σ' ∉ text) :
    lowercase text = text.flatMap lowerChar := by
  have after (before : List Char) : lowercaseAfter before text = text.flatMap lowerChar := by
    induction text generalizing before with
    | nil => rfl
    | cons c rest ih =>
      rw [List.mem_cons, not_or] at noSigma
      rw [lowercaseAfter, if_neg (Ne.symm noSigma.1), ih noSigma.2, List.flatMap_cons]
  exact after []

theorem exists_lowerChar {c : Char} (notDotted : c ≠ 'İ') : ∃ lower, lowerChar c = [lower] := by
  rw [lowerChar, if_neg notDotted]
  split <;> exact ⟨_, rfl⟩

theorem eq_of_toLower {c d : Char} (front : c.toNat < 0x61) (lowers : d.toLower = c) : d = c := by
  by_cases capital : d.val ≥ 'A'.val ∧ d.val ≤ 'Z'.val
  · have lower : d.toLower.val = d.val + ('a'.val - 'A'.val) := congrArg Char.val (dif_pos capital)
    have code : 0x41 ≤ d.val.toNat := capital.1
    have last : d.val.toNat ≤ 0x5A := capital.2
    have value : (d.val + ('a'.val - 'A'.val)).toNat = c.toNat := by rw [← lower, lowers]; rfl
    have distance : ('a'.val - 'A'.val).toNat = 32 := by decide
    rw [UInt32.toNat_add, distance] at value
    omega
  · have kept : d.toLower = d := dif_neg capital
    rw [← kept, lowers]

theorem le_of_lower? {run : CaseTable.Run} (member : run ∈ CaseTable.lowerRuns) {code lower : Nat}
    (lowers : run.lower? code = some lower) : 0x61 ≤ lower := by
  have targets : ∀ run ∈ CaseTable.lowerRuns, 0x61 ≤ run.target := by decide +kernel
  have above := targets run member
  rw [CaseTable.Run.lower?] at lowers
  split at lowers
  · have value : run.target + (code - run.first) = lower := Option.some.inj lowers
    omega
  · cases lowers

/-- Nothing is lowered to a character in front of the small letters but that character itself. -/
theorem eq_of_lowerChar {c d : Char} (occurs : c ≠ '\x00') (front : c.toNat < 0x61)
    (lowers : lowerChar d = [c]) : d = c := by
  rw [lowerChar] at lowers
  split at lowers
  · exact eq_of_toLower front (List.cons.inj lowers).1
  · split at lowers
    · cases lowers
    · have mapped := (List.cons.inj lowers).1
      cases found : CaseTable.lowerRuns.findSome? (·.lower? d.toNat) with
      | none =>
        rw [found] at mapped
        exact mapped
      | some code =>
        rw [found] at mapped
        have same : Char.ofNat code = c := mapped
        obtain ⟨run, member, gives⟩ := List.exists_of_findSome?_eq_some found
        have above := le_of_lower? member gives
        by_cases valid : code.isValidChar
        · have equal := congrArg Char.toNat same
          rw [Utf8.toNat_charOfNat valid] at equal
          omega
        · -- a number that is no character counts as the first character of all
          exact absurd (same.symm.trans (dif_neg valid)) occurs

end Text

namespace Report

/-! ### Anchors -/

/-- The marks that an anchor does not tell apart. -/
def marks : List Char :=
  ['/', '\\', '.', ' ', ':', '-']

/-- The characters look the same in an anchor. -/
def Alike (c d : Char) : Prop :=
  c ∈ marks ∧ d ∈ marks ∨ Text.lowerChar c = Text.lowerChar d

/-- Each character of the label is lowered on its own, to one character. -/
structure IsPlain (label : String) : Prop where
  noSigma : 'Σ' ∉ label.toList
  noDotted : 'İ' ∉ label.toList

/-- A character of an anchor, capitals aside. -/
def merged (c : Char) : Char :=
  if ['/', '\\', '.', ' ', ':'].contains c then '-' else c

theorem merged_of_mem {c : Char} (mark : c ∈ marks) : merged c = '-' := by
  simp only [marks, List.mem_cons, List.not_mem_nil, or_false] at mark
  rcases mark with rfl | rfl | rfl | rfl | rfl | rfl <;> rfl

theorem merged_of_not_mem {c : Char} (noMark : c ∉ marks) : merged c = c := by
  rw [merged, if_neg]
  rw [List.contains_iff_mem]
  exact fun member => noMark (List.mem_append_left ['-'] member)

/-- Only a mark itself is lowered to it. -/
theorem eq_of_lowerChar_mark {c d : Char} (mark : c ∈ marks)
    (same : Text.lowerChar c = Text.lowerChar d) : d = c := by
  have lowers : Text.lowerChar c = [c] ∧ c ≠ '\x00' ∧ c.toNat < 0x61 := by
    simp only [marks, List.mem_cons, List.not_mem_nil, or_false] at mark
    rcases mark with rfl | rfl | rfl | rfl | rfl | rfl <;> decide
  exact Text.eq_of_lowerChar lowers.2.1 lowers.2.2 (same.symm.trans lowers.1)

theorem lowerChar_ne_of_mark {c d : Char} (mark : c ∈ marks) (noMark : d ∉ marks) :
    Text.lowerChar c ≠ Text.lowerChar d :=
  fun same => noMark (eq_of_lowerChar_mark mark same ▸ mark)

theorem lowerChar_merged_iff {c d : Char} :
    Text.lowerChar (merged c) = Text.lowerChar (merged d) ↔ Alike c d := by
  have hyphen : '-' ∈ marks := by decide
  by_cases left : c ∈ marks <;> by_cases right : d ∈ marks
  · rw [merged_of_mem left, merged_of_mem right]
    exact iff_of_true rfl (.inl ⟨left, right⟩)
  · rw [merged_of_mem left, merged_of_not_mem right]
    refine iff_of_false (lowerChar_ne_of_mark hyphen right) ?_
    exact fun alike => alike.elim (fun both => right both.2) (lowerChar_ne_of_mark left right)
  · rw [merged_of_not_mem left, merged_of_mem right]
    refine iff_of_false (lowerChar_ne_of_mark hyphen left).symm ?_
    exact fun alike => alike.elim (fun both => left both.1) (lowerChar_ne_of_mark right left).symm
  · rw [merged_of_not_mem left, merged_of_not_mem right]
    exact ⟨.inr, fun alike => alike.resolve_left fun both => left both.1⟩

theorem IsPlain.not_mem {label : String} (plain : IsPlain label) {c : Char}
    (unusual : c = 'Σ' ∨ c = 'İ') : c ∉ label.toList.map merged := by
  intro member
  obtain ⟨d, inside, same⟩ := List.mem_map.mp member
  by_cases mark : d ∈ marks
  · rw [merged_of_mem mark] at same
    rcases unusual with rfl | rfl <;> exact absurd same (by decide)
  · rw [merged_of_not_mem mark] at same
    rcases unusual with rfl | rfl
    · exact plain.noSigma (same ▸ inside)
    · exact plain.noDotted (same ▸ inside)

theorem flatMap_eq_flatMap_iff {α β : Type} {f : α → List β} {left right : List α}
    (leftOne : ∀ a ∈ left, ∃ b, f a = [b]) (rightOne : ∀ a ∈ right, ∃ b, f a = [b]) :
    left.flatMap f = right.flatMap f ↔ List.Forall₂ (fun a b => f a = f b) left right := by
  induction left generalizing right with
  | nil =>
    cases right with
    | nil => simp
    | cons b right =>
      obtain ⟨lower, one⟩ := rightOne b List.mem_cons_self
      simp [one]
  | cons a left ih =>
    obtain ⟨lower, one⟩ := leftOne a List.mem_cons_self
    cases right with
    | nil => simp [one]
    | cons b right =>
      obtain ⟨other, otherOne⟩ := rightOne b List.mem_cons_self
      have rest := ih (fun a member => leftOne a (List.mem_cons_of_mem _ member))
        fun b member => rightOne b (List.mem_cons_of_mem _ member)
      rw [List.flatMap_cons, List.flatMap_cons, List.forall₂_cons, ← rest, one, otherOne]
      simp

/-- Plain labels share an anchor exactly when they look the same in it, character by character. -/
theorem anchor_eq_iff {left right : String} (leftPlain : IsPlain left)
    (rightPlain : IsPlain right) :
    anchor left = anchor right ↔ List.Forall₂ Alike left.toList right.toList := by
  have spelled {label : String} (plain : IsPlain label) :
      (anchor label).toList = (label.toList.map merged).flatMap Text.lowerChar := by
    rw [anchor, String.toList_ofList, ← Text.lowercase_of_not_mem (plain.not_mem (.inl rfl))]
    rfl
  have one {label : String} (plain : IsPlain label) :
      ∀ c ∈ label.toList.map merged, ∃ lower, Text.lowerChar c = [lower] := by
    intro c member
    exact Text.exists_lowerChar fun dotted => plain.not_mem (.inr dotted) member
  rw [← String.toList_inj, spelled leftPlain, spelled rightPlain,
    flatMap_eq_flatMap_iff (one leftPlain) (one rightPlain), List.forall₂_map_left_iff,
    List.forall₂_map_right_iff]
  simp only [lowerChar_merged_iff]

/-! ### Parts with the same anchor -/

/-- The part that a link leads to: the first one with the anchor. -/
def target? (parts : List Subsection) (target : String) : Option Subsection :=
  parts.find? fun part => anchor part.label = target

/-- The link to a part leads there exactly when no part before it has the same anchor. -/
theorem target?_eq_some_iff {parts : List Subsection}
    (ascending : (parts.map Subsection.label).Pairwise (· < ·)) {part : Subsection}
    (member : part ∈ parts) :
    target? parts (anchor part.label) = some part ↔
      ∀ other ∈ parts, other.label < part.label → anchor other.label ≠ anchor part.label := by
  rw [List.pairwise_map] at ascending
  constructor
  · intro leads other inside before same
    obtain ⟨-, front, behind, rfl, none⟩ := List.find?_eq_some_iff_append.mp leads
    have later := (List.pairwise_cons.mp (List.pairwise_append.mp ascending).2.1).1
    rcases List.mem_append.mp inside with front | behind
    · exact absurd same (by simpa using none other front)
    · rcases List.mem_cons.mp behind with rfl | behind
      · exact absurd before (lt_irrefl _)
      · exact absurd before (later other behind).asymm
  · intro first
    obtain ⟨front, behind, rfl⟩ := List.append_of_mem member
    refine List.find?_eq_some_iff_append.mpr ⟨by simp, front, behind, rfl, ?_⟩
    intro other inside
    have before := (List.pairwise_append.mp ascending).2.2 other inside part List.mem_cons_self
    have different := first other (List.mem_append_left _ inside) before
    simpa using different

/-- The part of a file on the disk has another anchor than that of the issues without a file. -/
theorem anchor_ne_of_isAbsolute {file : Path} (absolute : file.isAbsolute = true) :
    file.display ≠ "(project)" ∧ anchor file.display ≠ anchor "(project)" := by
  obtain ⟨bytes⟩ := file
  cases bytes with
  | nil => cases absolute
  | cons byte rest =>
    have separator : byte = Path.separator := by simpa [Path.isAbsolute] using absolute
    have shown : (Path.mk (byte :: rest)).display.toList = '/' :: Text.Utf8.decodeLossy rest := by
      have piece := Text.Utf8.pieces_encodeChar '/' rest
      rw [Path.display, String.toList_ofList, separator]
      exact congrArg (List.map Text.Utf8.Piece.replaced) piece
    have anchored : (anchor (Path.mk (byte :: rest)).display).toList.head? = some '-' := by
      rw [anchor, String.toList_ofList, shown]
      rfl
    constructor
    · intro same
      rw [same] at shown
      cases (List.cons.inj shown).1
    · intro same
      rw [same] at anchored
      exact absurd anchored (by decide +kernel)

end Report

namespace Published

/-- The files of findings are spelled as locations. -/
def Located (findings : List Finding) : Prop :=
  ∀ finding ∈ findings, ∀ file, finding.sourceFile = some file →
    ∃ location : Location, location.path = file

theorem exists_location_of_place {session : Session} {disk : Disk}
    {lookups : List (String × Path)} {generated : List Path} {moduleKey : String}
    {finding placed : Finding}
    (place : place? session disk lookups generated moduleKey finding = some placed) {file : Path}
    (inFile : placed.sourceFile = some file) : ∃ location : Location, location.path = file := by
  rw [place?] at place
  cases reported : finding.sourceFile with
  | none =>
    rw [reported] at place
    cases place
    cases reported.symm.trans inFile
  | some path =>
    rw [reported] at place
    obtain ⟨canonical, found, rfl⟩ := Option.map_eq_some_iff.mp place
    cases inFile
    have resolved := (Option.filter_eq_some_iff.mp found).1
    rw [canonical?, Session.resolve?_eq] at resolved
    obtain ⟨module, -, leads⟩ := Option.bind_eq_some_iff.mp resolved
    obtain ⟨location, -, spelled⟩ := Option.map_eq_some_iff.mp leads
    exact ⟨location, spelled⟩

theorem located_findingsOf (session : Session) (disk : Disk)
    (contributions : List (Artifact × Contribution)) :
    Located (findingsOf session disk contributions) := by
  intro finding member file inFile
  rw [findingsOf] at member
  obtain ⟨placed, first, rfl⟩ := List.mem_map.mp member
  obtain ⟨reported, -, place⟩ := List.mem_filterMap.mp (mem_of_mem_firsts first)
  exact exists_location_of_place place inFile

end Published

namespace Aggregation

theorem located_merged {aggregation : Aggregation} {disk : Disk} {result : AnalysisResult}
    (merged : aggregation.merged disk = .ok result) : Published.Located result.findings := by
  rw [Aggregation.merged, Merge.ofOutcomes_eq, Published.outcome] at merged
  split at merged
  · cases merged
  · cases merged
    exact Published.located_findingsOf _ disk _

theorem located_run (settings : Settings) (registry : Registry) (calls : List (Disk × Call))
    {result : AnalysisResult}
    (present : ((start settings registry).run calls).result? = some result) :
    Published.Located result.findings := by
  have next (past : List Step) (step : Step) (genuine : step.Genuine)
      (located : ∀ result, step.before.result? = some result → Published.Located result.findings) :
      ∀ result, step.after.result? = some result → Published.Located result.findings := by
    intro result present
    rcases genuine.result_after present with ⟨there, -⟩ | ⟨merged, -⟩
    · exact located result there
    · exact located_merged merged
  exact history_keeps (P := fun _ aggregation => ∀ result, aggregation.result? = some result →
    Published.Located result.findings) next (coherent_start settings registry) []
    (fun _ none => by cases none) calls result present

/-- What draining gives is there from then on. -/
theorem result?_run_drain (settings : Settings) (registry : Registry)
    (calls : List (Disk × Call)) {disk : Disk} {result : AnalysisResult}
    (drained : (((start settings registry).run calls).drain disk).1 = .ok result) :
    ((start settings registry).run (calls ++ [(disk, .drain)])).result? = some result := by
  have coherent := coherent_run (coherent_start settings registry) calls
  rw [run_append]
  generalize (start settings registry).run calls = aggregation at coherent drained
  rw [drain] at drained
  cases progress : aggregation.drainProgress disk with
  | mk given after =>
    rw [progress] at drained
    have genuine : Step.Genuine ⟨aggregation, disk, .drain, .drained given, after⟩ :=
      ⟨coherent, by simp only [perform, progress]⟩
    have answer : Answer.drained given = .drained ⟨given.imported, .ok result⟩ := by
      rw [← drained]
    have performed : aggregation.run [(disk, .drain)] = after := by
      simp only [run, perform, progress]
    rw [performed]
    exact (genuine.published answer).2

end Aggregation

/-- Paths that are text are told apart by what is shown. -/
theorem Path.eq_of_display {left right : Path} (leftText : left.text?.isSome)
    (rightText : right.text?.isSome) (same : left.display = right.display) : left = right := by
  obtain ⟨text, rfl⟩ := isText_iff.mpr leftText
  obtain ⟨other, rfl⟩ := isText_iff.mpr rightText
  rw [display_ofString, display_ofString] at same
  rw [same]

namespace Report

/-- What the parts of a report tell of files, and where the links to them lead. -/
structure LinksFiles (findings : List Finding) (parts : List Subsection) : Prop where
  /-- Issues are in one part exactly when their files are shown alike. -/
  together : ∀ part ∈ parts, ∀ issue ∈ part.issues, ∀ other ∈ findings, other.kind = .issue →
    (other ∈ part.issues ↔ other.fileLabel = issue.fileLabel)
  /-- Files are shown alike only when they are the same or the path of one is no text. -/
  named : ∀ part ∈ parts, ∀ issue ∈ part.issues, ∀ other ∈ part.issues, ∀ file otherFile,
    issue.sourceFile = some file → other.sourceFile = some otherFile →
      file.text?.isSome → otherFile.text?.isSome → file = otherFile
  /-- No link leads from an issue in a file to one without, or back. -/
  apart : ∀ part ∈ parts, ∀ issue ∈ part.issues, ∀ other ∈ parts, ∀ loose ∈ other.issues,
    issue.sourceFile.isSome → loose.sourceFile = none →
      part.label ≠ other.label ∧ anchor part.label ≠ anchor other.label
  /-- Labels share an anchor exactly when they differ in marks and capitals only. -/
  anchors : ∀ part ∈ parts, ∀ other ∈ parts, IsPlain part.label → IsPlain other.label →
    (anchor part.label = anchor other.label ↔
      List.Forall₂ Alike part.label.toList other.label.toList)
  /-- The link to a part leads there exactly when no part before it has the same anchor. -/
  leads : ∀ part ∈ parts, target? parts (anchor part.label) = some part ↔
    ∀ other ∈ parts, other.label < part.label → anchor other.label ≠ anchor part.label

theorem linksFiles_of_located {clock : Clock} {result : AnalysisResult} {includeMeasures : Bool}
    {parts : List Subsection} (shows : ShowsIssues clock result includeMeasures parts)
    (located : Published.Located result.findings) : LinksFiles result.findings parts := by
  have inside {part : Subsection} (member : part ∈ parts) {issue : Finding} :
      issue ∈ part.issues ↔
        issue ∈ result.findings ∧ issue.kind = .issue ∧ issue.fileLabel = part.label := by
    rw [(shows.issues part member).perm.mem_iff, List.mem_filter]
    simp
  constructor
  case together =>
    intro part member issue isInside other listed isIssue
    rw [((inside member).mp isInside).2.2, inside member]
    exact ⟨fun found => found.2.2, fun label => ⟨listed, isIssue, label⟩⟩
  case named =>
    intro part member issue isInside other otherInside file otherFile inFile inOther text otherText
    have label := ((inside member).mp isInside).2.2
    have otherLabel := ((inside member).mp otherInside).2.2
    rw [Finding.fileLabel, inFile] at label
    rw [Finding.fileLabel, inOther] at otherLabel
    exact Path.eq_of_display text otherText (label.trans otherLabel.symm)
  case apart =>
    intro part member issue isInside other otherMember loose looseInside hasFile noFile
    obtain ⟨listed, -, label⟩ := (inside member).mp isInside
    have otherLabel := ((inside otherMember).mp looseInside).2.2
    obtain ⟨file, inFile⟩ := Option.isSome_iff_exists.mp hasFile
    obtain ⟨location, rfl⟩ := located issue listed file inFile
    rw [Finding.fileLabel, inFile] at label
    rw [Finding.fileLabel, noFile] at otherLabel
    rw [← label, ← otherLabel]
    exact anchor_ne_of_isAbsolute location.isAbsolute_path
  case anchors => exact fun part _ other _ plain otherPlain => anchor_eq_iff plain otherPlain
  case leads => exact fun part member => target?_eq_some_iff shows.ascending member

/-- The report of a published result shows the issues of different files in different parts, as far
as the names of the files are text. The link to a part leads to another one just when a part before
it has the same anchor, and that is so when their labels differ in marks and capitals only. -/
theorem links_files (settings : Settings) (registry : Registry) (calls : List (Disk × Call))
    (disk : Disk) {result : AnalysisResult}
    (published : ((Aggregation.start settings registry).run calls).result? = some result ∨
      (((Aggregation.start settings registry).run calls).drain disk).1 = .ok result)
    (clock : Clock) (includeMeasures : Bool) :
    ∃ parts, ShowsIssues clock result includeMeasures parts ∧ LinksFiles result.findings parts := by
  have shows := showsIssues_subsections clock result includeMeasures
  refine ⟨_, shows, linksFiles_of_located shows ?_⟩
  rcases published with present | drained
  · exact Aggregation.located_run settings registry calls present
  · exact Aggregation.located_run settings registry (calls ++ [(disk, .drain)])
      (Aggregation.result?_run_drain settings registry calls drained)

/-! ### Two files with one anchor -/

section TwoFiles

/-- Settings with which no file is taken for a generated one. -/
def openSettings : Settings :=
  { classifier := { generatedPatterns := [], generatedMarkers := [] } }

def dotted : Path := ⟨[0x2F, 0x41, 0x2E, 0x62]⟩

def dashed : Path := ⟨[0x2F, 0x41, 0x2D, 0x62]⟩

/-- A disk with both files, which are empty, and a report of an issue in each. -/
def twoFilesDisk : Disk :=
  ((Disk.empty.putFile [] [0x41, 0x2E, 0x62] []).putFile [] [0x41, 0x2D, 0x62] []).putFile []
    [0x72] (BinaryReport.encode ""
      [{ path := "A.b", issues := [{ ruleId := "S1" }] },
        { path := "A-b", issues := [{ ruleId := "S1" }] }])

/-- The report, with a module at the root of the disk. -/
def twoFilesReport : Artifact :=
  ⟨"App", .protobuf, ⟨[0x2F, 0x72]⟩⟩

/-- The module, its files and the report. -/
def twoFilesRegistrations : List (Disk × Registration) :=
  [(twoFilesDisk, .module ⟨"App", ⟨[0x2F]⟩, .main⟩),
    (twoFilesDisk, .file "App" ⟨[0x41, 0x2E, 0x62]⟩),
    (twoFilesDisk, .file "App" ⟨[0x41, 0x2D, 0x62]⟩),
    (twoFilesDisk, .artifact "App" .protobuf ⟨[0x72]⟩)]

/-- Everything is registered, and draining begins. -/
def twoFilesCalls : List (Disk × Call) :=
  (twoFilesRegistrations.map fun (disk, registration) => (disk, .register registration)) ++
    [(twoFilesDisk, .beginDraining)]

def moduleSession : Session :=
  { Session.ofSettings openSettings with
    modules := (ModuleTable.register .empty ⟨"App", ⟨[0x2F]⟩, .main⟩).2 }

def emptyRecord (file : Path) : FileRecord :=
  ⟨file, "App", .utf8, digest [], false, false⟩

/-- The records after the first file. -/
def oneFileIndex : FileIndex :=
  { FileIndex.ofSettings openSettings with
    hashes := ⟨[⟨dotted, "App", digest []⟩], []⟩
    records := [emptyRecord dotted] }

def twoFilesIndex : FileIndex :=
  { FileIndex.ofSettings openSettings with
    hashes := ⟨[⟨dotted, "App", digest []⟩, ⟨dashed, "App", digest []⟩], []⟩
    records := [emptyRecord dashed, emptyRecord dotted] }

def twoFilesSession (phase : Phase) : Session :=
  { moduleSession with
    phase
    artifacts := Facts.push .empty "App" twoFilesReport
    files := twoFilesIndex }

theorem takeAny_dotted : (FileIndex.ofSettings openSettings).takeAny "App" (some ⟨dotted, []⟩) =
    (oneFileIndex, []) := by
  simp only [FileIndex.takeAny_some, FileIndex.registerContent, HashIndex.record, oneFileIndex,
    emptyRecord]
  -- The digest does not matter, and evaluating it would take long.
  generalize digest [] = hash
  rfl

theorem takeAny_dashed : oneFileIndex.takeAny "App" (some ⟨dashed, []⟩) = (twoFilesIndex, []) := by
  simp only [FileIndex.takeAny_some, FileIndex.registerContent, HashIndex.record, oneFileIndex,
    twoFilesIndex, emptyRecord]
  generalize digest [] = hash
  rfl

theorem registeringEach_twoFiles :
    (Session.ofSettings openSettings).registeringEach twoFilesRegistrations =
      twoFilesSession .collecting := by
  have known : moduleSession.modules.get? "App" = some ⟨"App", ⟨[0x2F]⟩, .main⟩ := rfl
  have module : (Session.ofSettings openSettings).registering twoFilesDisk
      (.module ⟨"App", ⟨[0x2F]⟩, .main⟩) = moduleSession := by
    rw [Session.registering_of_collecting rfl]
    rfl
  have first : moduleSession.registering twoFilesDisk (.file "App" ⟨[0x41, 0x2E, 0x62]⟩) =
      { moduleSession with files := oneFileIndex } := by
    have source : twoFilesDisk.source ⟨[0x2F]⟩ ⟨[0x41, 0x2E, 0x62]⟩ = .ok ⟨dotted, []⟩ := rfl
    have taken : moduleSession.files.takeAny "App" (some ⟨dotted, []⟩) = (oneFileIndex, []) :=
      takeAny_dotted
    rw [Session.registering_of_collecting rfl, Session.delivery, known, Option.map_some, source]
    simp only [Session.accept, Registration.moduleKey, taken]
    rfl
  have second : ({ moduleSession with files := oneFileIndex } : Session).registering twoFilesDisk
      (.file "App" ⟨[0x41, 0x2D, 0x62]⟩) = { moduleSession with files := twoFilesIndex } := by
    have source : twoFilesDisk.source ⟨[0x2F]⟩ ⟨[0x41, 0x2D, 0x62]⟩ = .ok ⟨dashed, []⟩ := rfl
    rw [Session.registering_of_collecting rfl, Session.delivery, known, Option.map_some, source]
    simp only [Session.accept, Registration.moduleKey, takeAny_dashed]
    rfl
  have artifact : ({ moduleSession with files := twoFilesIndex } : Session).registering
      twoFilesDisk (.artifact "App" .protobuf ⟨[0x72]⟩) = twoFilesSession .collecting := by
    rw [Session.registering_of_collecting rfl]
    rfl
  simp only [twoFilesRegistrations, Session.registeringEach_cons, Session.registeringEach_nil,
    module, first, second, artifact]

def twoFilesIssue (file : Path) : Finding :=
  { Finding.issue "App" file "vbnet:S1" none "" .medium with projectType := .main }

def twoFilesContribution : Contribution :=
  ⟨[.issue "App" (.ofString "A.b") "vbnet:S1" none "" .medium,
    .issue "App" (.ofString "A-b") "vbnet:S1" none "" .medium], [], []⟩

/-- Draining publishes both issues. -/
theorem drain_twoFiles : ∃ result,
    (((Aggregation.start openSettings (Registry.standard openSettings)).run twoFilesCalls).drain
      twoFilesDisk).1 = .ok result ∧
    result.findings = [twoFilesIssue dotted, twoFilesIssue dashed] := by
  have imports : (Registry.standard openSettings).importArtifact twoFilesDisk twoFilesReport =
      .ok twoFilesContribution := by decide +kernel
  have session : ((Aggregation.start openSettings (Registry.standard openSettings)).run
      twoFilesCalls).session = twoFilesSession .draining := by
    rw [twoFilesCalls, Aggregation.run_append, Aggregation.run_register]
    have begins : (Aggregation.start openSettings (Registry.standard openSettings)).session =
        Session.ofSettings openSettings := rfl
    rw [begins, registeringEach_twoFiles]
    rfl
  have published : Published.findingsOf (twoFilesSession .draining) twoFilesDisk
      [(twoFilesReport, twoFilesContribution)] =
        [twoFilesIssue dotted, twoFilesIssue dashed] := by
    simp only [twoFilesSession, twoFilesIndex, emptyRecord]
    generalize digest [] = hash
    rfl
  have contributions : Published.contributions (Registry.standard openSettings) twoFilesDisk
      [twoFilesReport] = [(twoFilesReport, twoFilesContribution)] := by
    rw [Published.contributions, List.filterMap_cons, imports]
    rfl
  have coherent := Aggregation.coherent_run (Aggregation.coherent_start openSettings
    (Registry.standard openSettings)) twoFilesCalls
  have draining : ((Aggregation.start openSettings (Registry.standard openSettings)).run
      twoFilesCalls).session.phase = .draining := by
    rw [session]
    rfl
  have registered : (twoFilesSession .draining).artifacts.all =
      [twoFilesReport] := rfl
  refine ⟨Published.result (twoFilesSession .draining)
    (Registry.standard openSettings) twoFilesDisk [twoFilesReport], ?_, ?_⟩
  · have outcome := Published.outcome_of_importable (twoFilesSession .draining)
      ⟨_, List.mem_singleton_self twoFilesReport, _, imports⟩
    rw [Aggregation.drain_eq coherent draining, Aggregation.registry_run, session, registered]
    exact congrArg (Except.mapError DrainError.noValidArtifacts) outcome
  · rw [← published, ← contributions]
    rfl

/-- The link to the issues in `/A.b` leads to those in `/A-b`. -/
theorem links_files_merged : ∃ result,
    (((Aggregation.start openSettings (Registry.standard openSettings)).run twoFilesCalls).drain
      twoFilesDisk).1 = .ok result ∧
    ∃ parts, ShowsIssues ⟨.epoch, .zero false⟩ result false parts ∧
      LinksFiles result.findings parts ∧
      ∃ part ∈ parts, ∃ other ∈ parts, part.label = "/A.b" ∧ other.label = "/A-b" ∧
        target? parts (anchor part.label) = some other := by
  obtain ⟨result, drained, findings⟩ := drain_twoFiles
  obtain ⟨parts, shows, links⟩ := links_files openSettings (Registry.standard openSettings)
    twoFilesCalls twoFilesDisk (.inr drained) ⟨.epoch, .zero false⟩ false
  have labelled (label : String) : label ∈ parts.map Subsection.label ↔
      label = "/A.b" ∨ label = "/A-b" := by
    have dottedLabel : (twoFilesIssue dotted).fileLabel = "/A.b" := by decide +kernel
    have dashedLabel : (twoFilesIssue dashed).fileLabel = "/A-b" := by decide +kernel
    have isIssue (file : Path) : (twoFilesIssue file).kind = .issue := rfl
    rw [shows.labels, findings]
    simp [isIssue, dottedLabel, dashedLabel, eq_comm]
  obtain ⟨part, member, label⟩ := List.mem_map.mp ((labelled "/A.b").mpr (.inl rfl))
  obtain ⟨other, inside, otherLabel⟩ := List.mem_map.mp ((labelled "/A-b").mpr (.inr rfl))
  refine ⟨result, drained, parts, shows, links, part, member, other, inside, label, otherLabel, ?_⟩
  have merges : anchor "/A.b" = anchor "/A-b" := by decide +kernel
  rw [label, merges, ← otherLabel, links.leads other inside]
  intro earlier listed before
  have known := (labelled earlier.label).mp (List.mem_map_of_mem listed)
  rw [otherLabel] at before
  rcases known with known | known
  · rw [known] at before
    exact absurd before (by decide)
  · rw [known] at before
    exact absurd before (lt_irrefl _)

end TwoFiles

end Report

end ScanMerge
