import ScanMerge.Proofs.DecimalDigits
import ScanMerge.Proofs.Tallies
import ScanMerge.Report.Document

/-!
How a report shows the issues. There is a part for each file, in the order of the table of contents;
it shows every issue of the file once, the gravest first, and no other part of a report shows any.
The line below its heading names the module of the issue that stands first in the file.
-/

set_option autoImplicit false

namespace ScanMerge.Report

open Markdown (Alignment Block Bullet Column)

/-! ### The parts of the files -/

def issueHeading (issue : Finding) : Block :=
  .heading 4 (badge (issue.severity.getD .low) ++ " " ++ code issue.key)

def opensIssue : Block → Bool
  | .heading level _ => level = 4
  | .paragraph _ | .bullets _ | .table _ _ | .rule => false

/-- The line below the heading of a file. -/
def moduleLine (first : Finding) (count : Nat) : String :=
  s!"*Module: {first.moduleKey} ({first.projectType.keyword}) | Issues: {number count}*"

/-- What a report says about an issue: its severity and key, its lines, its message unless that is
empty, and a line that ends it. -/
def issueText (issue : Finding) : String :=
  "#### " ++ badge (issue.severity.getD .low) ++ " `" ++ issue.key ++ "`\n\n" ++
    "**Lines:** " ++ (issue.location.map TextRange.lineText).getD "file level" ++ "\n\n" ++
    (if issue.message = "" then "" else issue.message ++ "\n\n") ++ "---\n\n"

/-- The part of a report about the issues of a file. -/
structure Subsection where
  label : String
  /-- What the line below the heading says. -/
  line : String
  issues : List Finding

namespace Subsection

/-- The part as it stands in the report. -/
def blocks (subsection : Subsection) : List Block :=
  [fileHeading subsection.label, .paragraph subsection.line] ++
    subsection.issues.flatMap issueBlocks

/-- The entry of the part in the table of contents. -/
def entry (subsection : Subsection) : Bullet :=
  ⟨true, link subsection.label (anchor subsection.label)⟩

/-- The text of the part: the label of the file with what links to it lead to, the line below, and
the texts of the issues. -/
def text (subsection : Subsection) : String :=
  "### " ++ subsection.label ++ " \x7b#" ++ anchor subsection.label ++ "\x7d\n\n" ++
    subsection.line ++ "\n\n" ++ String.join (subsection.issues.map issueText)

/-- The line of the part in the table of contents. -/
def entryText (subsection : Subsection) : String :=
  "  - [" ++ subsection.label ++ "](#" ++ anchor subsection.label ++ ")\n"

/-- The part about a group of issues. -/
def ofGroup (label : String) (group : List Finding) : Subsection :=
  { label
    line := group.head?.elim "" fun first => moduleLine first group.length
    issues := Statistics.sortBySeverity group }

end Subsection

/-- The parts about the files with issues. -/
def subsections (findings : List Finding) : List Subsection :=
  (Statistics.groupByFile findings).entries.map fun entry => .ofGroup entry.1 entry.2

def issuesText (parts : List Subsection) : String :=
  "## Issues by File\n\n" ++
    if parts = [] then "No issues were found in the aggregated artifacts.\n\n"
    else String.join (parts.map Subsection.text)

section Findings

variable (findings : List Finding)

theorem map_label_subsections :
    (subsections findings).map Subsection.label = (Statistics.groupByFile findings).keys := by
  rw [subsections, List.map_map]
  rfl

theorem exists_of_mem_subsections {subsection : Subsection}
    (member : subsection ∈ subsections findings) :
    ∃ group, subsection = .ofGroup subsection.label group ∧ group ≠ [] ∧
      SortedBy Finding.place (Statistics.issuesOf findings subsection.label) group := by
  obtain ⟨⟨label, group⟩, inside, rfl⟩ := List.mem_map.mp member
  exact ⟨group, rfl, Statistics.sortedBy_of_mem_entries inside⟩

theorem fileBlocks_eq {label : String} {group : List Finding} (occurs : group ≠ []) :
    fileBlocks label group = (Subsection.ofGroup label group).blocks := by
  cases group with
  | nil => exact absurd rfl occurs
  | cons first rest => rfl

/-- The section of issues consists of the parts of the files. -/
theorem issues_eq :
    issues findings = .heading 2 "Issues by File" ::
      if subsections findings = [] then
        [.paragraph "No issues were found in the aggregated artifacts."]
      else (subsections findings).flatMap Subsection.blocks := by
  have parts : ((Statistics.groupByFile findings).entries.flatMap
      fun group => fileBlocks group.1 group.2) =
        (subsections findings).flatMap Subsection.blocks := by
    rw [subsections, List.flatMap_map]
    apply List.flatMap_congr
    intro entry member
    exact fileBlocks_eq (Statistics.sortedBy_of_mem_entries member).1
  rw [issues, parts]
  simp only [subsections, List.isEmpty_iff, List.map_eq_nil_iff]

end Findings

/-! ### Headings of issues -/

theorem filter_issueBlocks (issue : Finding) :
    (issueBlocks issue).filter opensIssue = [issueHeading issue] := by
  rw [issueBlocks]
  split <;> rfl

theorem filter_subsection (subsection : Subsection) :
    subsection.blocks.filter opensIssue = subsection.issues.map issueHeading := by
  have head : [fileHeading subsection.label, .paragraph subsection.line].filter opensIssue = [] :=
    rfl
  rw [Subsection.blocks, List.filter_append, head, List.nil_append, List.filter_flatMap,
    List.map_eq_flatMap]
  simp only [filter_issueBlocks]

theorem filter_issues (findings : List Finding) :
    (issues findings).filter opensIssue =
      (subsections findings).flatMap fun subsection => subsection.issues.map issueHeading := by
  rw [issues_eq]
  split
  · next none => rw [none]; rfl
  · rw [List.filter_cons_of_neg (by simp [opensIssue]), List.filter_flatMap]
    simp only [filter_subsection]

theorem filter_metadata (clock : Clock) (figures : Figures) :
    (metadata clock figures).filter opensIssue = [] := rfl

theorem filter_contents (result : AnalysisResult) (includeMeasures : Bool) :
    (contents result includeMeasures).filter opensIssue = [] := rfl

theorem filter_countTable (heading title count : String) (spell : String → String)
    (entries : List (String × Nat)) :
    (countTable heading title count spell entries).filter opensIssue = [] := by
  rw [countTable]
  split <;> rfl

theorem filter_summary (result : AnalysisResult) :
    (summary result).filter opensIssue = [] := by
  simp only [summary, List.filter_append, filter_countTable]
  rfl

theorem filter_warnings (raised : List Warning) : (warnings raised).filter opensIssue = [] := by
  rw [warnings]
  split <;> rfl

theorem filter_measures (findings : List Finding) :
    (measures findings).filter opensIssue = [] := by
  rw [measures]
  split <;> rfl

theorem filter_telemetry (table : KeyMap (List String)) :
    (telemetry table).filter opensIssue = [] := by
  rw [telemetry]
  split <;> rfl

/-- A report has one heading for each issue of each part, in the order of the parts. -/
theorem filter_blocks (clock : Clock) (result : AnalysisResult) (includeMeasures : Bool) :
    (blocks clock result includeMeasures).filter opensIssue =
      (subsections result.findings).flatMap fun subsection =>
        subsection.issues.map issueHeading := by
  have extra : (if includeMeasures then measures result.findings ++ telemetry result.telemetry
      else []).filter opensIssue = [] := by
    split
    · rw [List.filter_append, filter_measures, filter_telemetry, List.append_nil]
    · rfl
  simp only [blocks, List.filter_append, filter_metadata, filter_contents, filter_summary,
    filter_warnings, filter_issues, extra]
  simp [opensIssue]

/-! ### Texts of issues -/

theorem render_append (front behind : List Block) :
    Markdown.render (front ++ behind) = Markdown.render front ++ Markdown.render behind := by
  rw [Markdown.render, List.map_append, String.join_append]
  rfl

theorem render_cons (block : Block) (rest : List Block) :
    Markdown.render (block :: rest) = block.body ++ "\n" ++ Markdown.render rest := by
  simp [Markdown.render]

theorem render_nil : Markdown.render [] = "" := rfl

theorem render_flatMap {α : Type} (values : List α) (shown : α → List Block) :
    Markdown.render (values.flatMap shown) =
      String.join (values.map fun value => Markdown.render (shown value)) := by
  induction values with
  | nil => rfl
  | cons value rest ih => rw [List.flatMap_cons, render_append, ih, List.map_cons, String.join_cons]

/-- What stands behind some blocks begins a line. -/
theorem exists_render_eq {blocks : List Block} (occurs : blocks ≠ []) :
    ∃ front, Markdown.render blocks = front ++ "\n" := by
  obtain ⟨init, last, rfl⟩ := List.eq_nil_or_concat blocks |>.resolve_left occurs
  refine ⟨Markdown.render init ++ last.body, ?_⟩
  rw [List.concat_eq_append, render_append, render_cons, render_nil, String.append_empty,
    String.append_assoc]

theorem render_issueBlocks (issue : Finding) :
    Markdown.render (issueBlocks issue) = issueText issue := by
  have message : Markdown.render (if issue.message = "" then [] else [.paragraph issue.message]) =
      if issue.message = "" then "" else issue.message ++ "\n\n" := by
    split
    · rfl
    · simp [render_cons, render_nil, Markdown.Block.body, String.append_assoc]
  rw [issueBlocks, issueText, render_append, render_append, message]
  apply String.toList_inj.mp
  simp [render_cons, render_nil, Markdown.Block.body, linesText, code]

theorem render_blocks_subsection (subsection : Subsection) :
    Markdown.render subsection.blocks = subsection.text := by
  rw [Subsection.blocks, render_append, render_flatMap, Subsection.text]
  simp [render_cons, render_nil, render_issueBlocks, fileHeading, Markdown.Block.body,
    String.append_assoc]

/-- The section of issues says what its parts say. -/
theorem render_issues (findings : List Finding) :
    Markdown.render (issues findings) = issuesText (subsections findings) := by
  have title : Markdown.Block.body (.heading 2 "Issues by File") ++ "\n" =
      "## Issues by File\n\n" := by simp [Markdown.Block.body]
  rw [issues_eq, render_cons, title]
  unfold issuesText
  congr 1
  split
  · simp [render_cons, render_nil, Markdown.Block.body]
  · simp only [render_flatMap, render_blocks_subsection]

theorem line_entry (subsection : Subsection) :
    subsection.entry.line = subsection.entryText := by
  apply String.toList_inj.mp
  simp [Subsection.entry, Markdown.Bullet.line, Subsection.entryText, link, toString]

/-! ### Issues in a report -/

/-- A report shows the issues of its result in these parts. -/
structure ShowsIssues (clock : Clock) (result : AnalysisResult) (includeMeasures : Bool)
    (parts : List Subsection) : Prop where
  ascending : (parts.map Subsection.label).Pairwise (· < ·)
  labels : ∀ label, label ∈ parts.map Subsection.label ↔
    ∃ issue ∈ result.findings, issue.kind = .issue ∧ issue.fileLabel = label
  /-- A part has the issues with its label, the gravest first, then by location, and then in the
  order of the result. -/
  issues : ∀ part ∈ parts, SortedBy Finding.gravity
    (result.findings.filter fun issue => issue.kind = .issue ∧ issue.fileLabel = part.label)
    part.issues
  /-- The section of issues consists of these parts. -/
  together : Report.issues result.findings = .heading 2 "Issues by File" ::
    if parts = [] then [.paragraph "No issues were found in the aggregated artifacts."]
    else parts.flatMap Subsection.blocks
  /-- The files in the table of contents are those of these parts. -/
  contents : ∃ items, contents result includeMeasures =
      [.heading 2 "Table of Contents", .bullets items] ∧
    items.filter Bullet.nested = parts.map Subsection.entry
  /-- The report holds both, and nothing but these parts opens an issue. -/
  report : ∃ front between behind, blocks clock result includeMeasures =
      front ++ Report.contents result includeMeasures ++ between ++
        Report.issues result.findings ++ behind ∧
    markdown clock result includeMeasures =
      Markdown.render front ++ Markdown.render (Report.contents result includeMeasures) ++
        Markdown.render between ++ Markdown.render (Report.issues result.findings) ++
        Markdown.render behind ++ lastLine
  headings : (blocks clock result includeMeasures).filter opensIssue =
    parts.flatMap fun part => part.issues.map issueHeading
  /-- What the report says: the table of contents has the lines of these parts together, and below
  stands the text of these parts. -/
  text : ∃ front between behind, markdown clock result includeMeasures =
    front ++ "\n" ++ String.join (parts.map Subsection.entryText) ++ between ++ "\n" ++
      issuesText parts ++ behind

/-- The table of contents has the entries of the parts together, behind other entries. -/
theorem exists_contents_eq (result : AnalysisResult) (includeMeasures : Bool) :
    ∃ leading trailing, contents result includeMeasures =
        [.heading 2 "Table of Contents",
          .bullets (leading ++ (subsections result.findings).map Subsection.entry ++ trailing)] ∧
      leading ≠ [] ∧ ∀ item ∈ leading ++ trailing, ¬ item.nested := by
  have entries : (subsections result.findings).map Subsection.entry =
      (Statistics.groupByFile result.findings).keys.map fun file =>
        ⟨true, link file (anchor file)⟩ := by
    rw [← map_label_subsections, List.map_map]
    rfl
  rw [entries]
  refine ⟨_, _, rfl, by simp, ?_⟩
  cases result.warnings.isEmpty <;> cases includeMeasures <;> simp

theorem exists_items_contents (result : AnalysisResult) (includeMeasures : Bool) :
    ∃ items, contents result includeMeasures =
        [.heading 2 "Table of Contents", .bullets items] ∧
      items.filter Bullet.nested = (subsections result.findings).map Subsection.entry := by
  obtain ⟨leading, trailing, whole, -, others⟩ := exists_contents_eq result includeMeasures
  obtain ⟨front, behind⟩ := List.forall_mem_append.mp others
  refine ⟨_, whole, ?_⟩
  rw [List.filter_append, List.filter_append, List.filter_eq_nil_iff.mpr front,
    List.filter_eq_nil_iff.mpr behind, List.nil_append, List.append_nil, List.filter_eq_self]
  intro item member
  obtain ⟨part, -, rfl⟩ := List.mem_map.mp member
  rfl

/-- The lines of the parts stand together in the table of contents. -/
theorem exists_render_contents (result : AnalysisResult) (includeMeasures : Bool) :
    ∃ front behind, Markdown.render (contents result includeMeasures) =
      front ++ "\n" ++ String.join ((subsections result.findings).map Subsection.entryText) ++
        behind := by
  obtain ⟨leading, trailing, whole, occurs, -⟩ := exists_contents_eq result includeMeasures
  obtain ⟨init, last, rfl⟩ := List.eq_nil_or_concat leading |>.resolve_left occurs
  have lines : ((subsections result.findings).map Subsection.entry).map Bullet.line =
      (subsections result.findings).map Subsection.entryText := by
    rw [List.map_map]
    exact List.map_congr_left fun part _ => line_entry part
  have ends : last.line = (if last.nested then "  - " else "- ") ++ last.text ++ "\n" := rfl
  have body (items : List Bullet) :
      Markdown.Block.body (.bullets items) = String.join (items.map Bullet.line) := rfl
  refine ⟨Markdown.Block.body (.heading 2 "Table of Contents") ++ "\n" ++
    String.join (init.map Bullet.line) ++ (if last.nested then "  - " else "- ") ++ last.text,
    String.join (trailing.map Bullet.line) ++ "\n", ?_⟩
  rw [whole, render_cons, render_cons, render_nil, body, List.map_append, List.map_append, lines,
    List.concat_eq_append, List.map_append, List.map_singleton]
  simp only [String.join_append, String.join_cons, String.join_nil, ends, String.append_empty,
    String.append_assoc]

theorem exists_around_issues (clock : Clock) (result : AnalysisResult) (includeMeasures : Bool) :
    ∃ front between behind, between ≠ [] ∧ blocks clock result includeMeasures =
        front ++ contents result includeMeasures ++ between ++ issues result.findings ++ behind ∧
      markdown clock result includeMeasures =
        Markdown.render front ++ Markdown.render (contents result includeMeasures) ++
          Markdown.render between ++ Markdown.render (issues result.findings) ++
          Markdown.render behind ++ lastLine := by
  refine ⟨[.heading 1 "Scan Aggregation Report"] ++ metadata clock result.figures,
    summary result ++ warnings result.warnings,
    (if includeMeasures then measures result.findings ++ telemetry result.telemetry else []) ++
      [.rule], by simp [summary], ?_⟩
  have whole : blocks clock result includeMeasures =
      ([.heading 1 "Scan Aggregation Report"] ++ metadata clock result.figures) ++
        contents result includeMeasures ++ (summary result ++ warnings result.warnings) ++
        issues result.findings ++
        ((if includeMeasures then measures result.findings ++ telemetry result.telemetry
          else []) ++ [.rule]) := by
    simp only [blocks, List.append_assoc]
  refine ⟨whole, ?_⟩
  rw [markdown, whole]
  simp only [render_append]

/-- The text of a report has the lines of the parts and below them the texts of the parts. -/
theorem exists_text_of_issues (clock : Clock) (result : AnalysisResult) (includeMeasures : Bool) :
    ∃ front between behind, markdown clock result includeMeasures =
      front ++ "\n" ++ String.join ((subsections result.findings).map Subsection.entryText) ++
        between ++ "\n" ++ issuesText (subsections result.findings) ++ behind := by
  obtain ⟨front, between, behind, occurs, -, text⟩ :=
    exists_around_issues clock result includeMeasures
  obtain ⟨before, after, listed⟩ := exists_render_contents result includeMeasures
  obtain ⟨above, ends⟩ := exists_render_eq occurs
  refine ⟨Markdown.render front ++ before, after ++ above, Markdown.render behind ++ lastLine, ?_⟩
  rw [text, listed, ends, render_issues]
  simp only [String.append_assoc]

theorem showsIssues_subsections (clock : Clock) (result : AnalysisResult)
    (includeMeasures : Bool) :
    ShowsIssues clock result includeMeasures (subsections result.findings) := by
  obtain ⟨front, between, behind, -, around⟩ := exists_around_issues clock result includeMeasures
  refine ⟨?_, ?_, ?_, issues_eq result.findings, exists_items_contents result includeMeasures,
    ⟨front, between, behind, around⟩, filter_blocks clock result includeMeasures,
    exists_text_of_issues clock result includeMeasures⟩
  · rw [map_label_subsections]
    exact (Statistics.groupByFile result.findings).ascending_keys
  · intro label
    rw [map_label_subsections, Statistics.mem_keys_groupByFile, List.mem_map]
    simp [Statistics.issues, and_assoc]
  · intro part member
    obtain ⟨group, same, -, sorts⟩ := exists_of_mem_subsections result.findings member
    rw [same]
    exact Statistics.sortedBy_sortBySeverity_of_place sorts

/-- Every report shows each issue once, in the part of its file and in order. -/
theorem shows_issues (clock : Clock) (result : AnalysisResult) (includeMeasures : Bool) :
    ShowsIssues clock result includeMeasures (subsections result.findings) :=
  showsIssues_subsections clock result includeMeasures

/-! ### The module of a file -/

/-- The line says that the issues of a file are of a module. -/
def NamesModule (line moduleKey : String) (projectType : ProjectType) : Prop :=
  ∃ count, line = s!"*Module: {moduleKey} ({projectType.keyword}) | Issues: {number count}*"

theorem append_cons_inj_of_not_mem {α : Type} {mark : α} {front behind front' behind' : List α}
    (absent : mark ∉ behind) (absent' : mark ∉ behind')
    (same : front ++ mark :: behind = front' ++ mark :: behind') :
    front = front' ∧ behind = behind' := by
  rcases List.append_eq_append_iff.mp same with ⟨between, rfl, rest⟩ | ⟨between, rfl, rest⟩
  · cases between with
    | nil => simpa using rest
    | cons first others =>
      obtain ⟨rfl, rfl⟩ := List.cons.inj rest
      simp at absent
  · cases between with
    | nil => simpa [eq_comm] using rest
    | cons first others =>
      obtain ⟨rfl, rfl⟩ := List.cons.inj rest
      simp at absent'

/-- The characters of such a line, with the marks at which it is taken apart. -/
theorem toList_moduleText (moduleKey keyword : String) (count : Nat) :
    (s!"*Module: {moduleKey} ({keyword}) | Issues: {number count}*").toList =
      "*Module: ".toList ++
        (((moduleKey.toList ++ [' ']) ++ '(' :: keyword.toList) ++ ") | Issues:".toList ++
          ' ' :: Nat.toDigits 10 count) ++ ['*'] := by
  simp [number, toString]

theorem namesModule_moduleLine_iff {first : Finding} {count : Nat} {moduleKey : String}
    {projectType : ProjectType} :
    NamesModule (moduleLine first count) moduleKey projectType ↔
      first.moduleKey = moduleKey ∧ first.projectType = projectType := by
  have noSpace (number : Nat) : ' ' ∉ Nat.toDigits 10 number := by
    intro member
    exact absurd (Decimal.isDigit_of_mem member) (by decide)
  have noBracket (type : ProjectType) : '(' ∉ type.keyword.toList := by
    cases type <;> decide
  constructor
  · rintro ⟨other, same⟩
    have texts := congrArg String.toList same
    rw [moduleLine, toList_moduleText, toList_moduleText] at texts
    have middle := List.append_cancel_left (List.append_cancel_right texts)
    have named := (append_cons_inj_of_not_mem (noSpace _) (noSpace _) middle).1
    obtain ⟨keys, words⟩ := append_cons_inj_of_not_mem (noBracket _) (noBracket _)
      (List.append_cancel_right named)
    have sameType : first.projectType = projectType := by
      revert words
      cases first.projectType <;> cases projectType <;> decide
    exact ⟨String.toList_inj.mp (List.append_cancel_right keys), sameType⟩
  · rintro ⟨rfl, rfl⟩
    exact ⟨count, rfl⟩

/-- The issue stands first among those of its file: none of them is at a lesser place, and none
before it in the list is at the same. -/
def LeadsFile (findings : List Finding) (first : Finding) : Prop :=
  ∃ before behind, Statistics.issuesOf findings first.fileLabel = before ++ first :: behind ∧
    (∀ issue ∈ before, first.place < issue.place) ∧ ∀ issue ∈ behind, first.place ≤ issue.place

/-- What the line of a part says about its issues, given the one that stands first in the file. -/
structure Attributes (findings : List Finding) (part : Subsection) (first : Finding) : Prop where
  inside : first ∈ part.issues
  leads : LeadsFile findings first
  line : part.line = moduleLine first part.issues.length
  names : ∀ moduleKey projectType, NamesModule part.line moduleKey projectType ↔
    first.moduleKey = moduleKey ∧ first.projectType = projectType
  /-- The line holds for all issues of a file that are of one module. -/
  alone : (∀ issue ∈ part.issues, ∀ other ∈ part.issues,
      issue.moduleKey = other.moduleKey ∧ issue.projectType = other.projectType) →
    ∀ issue ∈ part.issues, NamesModule part.line issue.moduleKey issue.projectType

theorem exists_attributes {findings : List Finding} {part : Subsection}
    (member : part ∈ subsections findings) : ∃ first, Attributes findings part first := by
  obtain ⟨group, same, occurs, sorts⟩ := exists_of_mem_subsections findings member
  have ranked := Statistics.sortedBy_sortBySeverity group
  have issues : part.issues = Statistics.sortBySeverity group := congrArg Subsection.issues same
  have line : part.line = group.head?.elim "" fun first => moduleLine first group.length :=
    congrArg Subsection.line same
  rw [← issues] at ranked
  cases group with
  | nil => exact absurd rfl occurs
  | cons first rest =>
    rw [← ranked.perm.length_eq] at line
    have inside : first ∈ part.issues := ranked.perm.mem_iff.mpr List.mem_cons_self
    have own : first.fileLabel = part.label :=
      (Statistics.mem_issuesOf.mp (sorts.perm.mem_iff.mp List.mem_cons_self)).2.2
    have names (moduleKey : String) (projectType : ProjectType) :
        NamesModule part.line moduleKey projectType ↔
          first.moduleKey = moduleKey ∧ first.projectType = projectType := by
      rw [line]
      exact namesModule_moduleLine_iff
    refine ⟨first, inside, ?_, line, names, ?_⟩
    · rw [LeadsFile, own]
      exact sorts.exists_head
    · intro together issue member
      exact (names _ _).mpr (together first inside issue member)

/-- Every issue of a report stands in the part of its file, and the line of that part names the
module and the project type of the issue that stands first in the file: of this one exactly when
both agree. -/
theorem names_first_module (clock : Clock) (result : AnalysisResult) (includeMeasures : Bool)
    {issue : Finding} (member : issue ∈ result.findings) (isIssue : issue.kind = .issue) :
    ∃ parts, ShowsIssues clock result includeMeasures parts ∧
      ∃ part ∈ parts, part.label = issue.fileLabel ∧ issue ∈ part.issues ∧
        ∃ first, Attributes result.findings part first := by
  have shows := showsIssues_subsections clock result includeMeasures
  refine ⟨_, shows, ?_⟩
  obtain ⟨part, inside, label⟩ :=
    List.mem_map.mp ((shows.labels issue.fileLabel).mpr ⟨issue, member, isIssue, rfl⟩)
  refine ⟨part, inside, label, ?_, exists_attributes inside⟩
  rw [(shows.issues part inside).perm.mem_iff, List.mem_filter]
  exact ⟨member, by simp [isIssue, label]⟩

/-- An issue on a line of the file `/X`. -/
def sharedIssue (moduleKey : String) (projectType : ProjectType) (line : UInt32) : Finding :=
  { Finding.issue moduleKey ⟨[0x2F, 0x58]⟩ "S1" (some (.line line)) "Unused" .medium with
    projectType }

/-- A result with a file that is shared by a module and its tests. -/
def sharedResult : AnalysisResult where
  figures := ⟨⟨1, 1, 0⟩, 1, 0, 2, 2, 0, 0, 0, 2⟩
  findings := [sharedIssue "App" .main 1, sharedIssue "App.Tests" .test 2]
  files := [⟨⟨[0x2F, 0x58]⟩, "App", .utf8, "", false, false⟩]
  conflicts := []
  methodDeclarations := []
  telemetry := .empty
  summary := .ofFindings [sharedIssue "App" .main 1, sharedIssue "App.Tests" .test 2]
  warnings := []

/-- The part of the shared file shows the issue of the tests and names the other module only. -/
theorem names_first_module_shared :
    sharedIssue "App.Tests" .test 2 ∈ sharedResult.findings ∧
      (sharedIssue "App.Tests" .test 2).kind = .issue ∧
      ∃ parts, ShowsIssues ⟨.epoch, .zero false⟩ sharedResult false parts ∧
        ∃ part ∈ parts, sharedIssue "App.Tests" .test 2 ∈ part.issues ∧
          NamesModule part.line "App" .main ∧ ¬ NamesModule part.line "App.Tests" .test := by
  have member : sharedIssue "App.Tests" .test 2 ∈ sharedResult.findings :=
    List.mem_cons_of_mem _ List.mem_cons_self
  obtain ⟨parts, shows, part, inside, label, shown, first, attributes⟩ :=
    names_first_module ⟨.epoch, .zero false⟩ sharedResult false member rfl
  have before : (sharedIssue "App" .main 1).place < (sharedIssue "App.Tests" .test 2).place :=
    WithBot.coe_lt_coe.mpr (Prod.Lex.toLex_lt_toLex.mpr (.inl (by decide)))
  have leader : first = sharedIssue "App" .main 1 := by
    have listed := (List.mem_filter.mp
      ((shows.issues part inside).perm.mem_iff.mp attributes.inside)).1
    rcases List.mem_pair.mp listed with own | rfl
    · exact own
    · obtain ⟨earlier, later, whole, less, atLeast⟩ := attributes.leads
      have other : sharedIssue "App" .main 1 ∈
          earlier ++ sharedIssue "App.Tests" .test 2 :: later :=
        whole ▸ Statistics.mem_issuesOf.mpr ⟨List.mem_cons_self, rfl, rfl⟩
      rcases List.mem_append.mp other with front | behind
      · exact absurd (less _ front) before.not_gt
      · rcases List.mem_cons.mp behind with same | behind
        · exact absurd (same ▸ before) (lt_irrefl _)
        · exact absurd (atLeast _ behind) before.not_ge
  refine ⟨member, rfl, parts, shows, part, inside, shown, ?_, ?_⟩
  · rw [attributes.names, leader]
    exact ⟨rfl, rfl⟩
  · rw [attributes.names, leader]
    exact fun same => absurd same.2 (by decide)

end ScanMerge.Report
