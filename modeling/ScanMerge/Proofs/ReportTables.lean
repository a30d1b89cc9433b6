import ScanMerge.Proofs.IssueSections
import ScanMerge.Proofs.MarkdownRows

/-!
The tables of a report about keys, modules, files, warnings, measures and telemetry. Only the
message of a warning is escaped, so a row has the cells of its table exactly when its other texts
hold nothing to escape, and the message nothing that escaping undoes.
-/

set_option autoImplicit false

namespace ScanMerge.Report

open Markdown (Alignment Block Bullet Column IsInert IsRow FitsCell ShowsCells bars rowText)

/-! ### Texts in cells -/

instance (text : String) : Decidable (FitsCell text) :=
  decidable_of_iff ('\n' ∉ text.toList ∧ bars text.toList = 0)
    ⟨fun fits => ⟨fits.1, fits.2⟩, fun fits => ⟨fits.oneLine, fits.whole⟩⟩

theorem fitsCell_code_iff {text : String} : FitsCell (code text) ↔ FitsCell text := by
  have mark : IsInert '`' := ⟨by decide, by decide⟩
  have spelled : (code text).toList = '`' :: (text.toList ++ ['`']) := by simp [code]
  have sameBars : bars (code text).toList = bars text.toList := by
    rw [spelled, Markdown.bars_cons mark, Markdown.bars_append_singleton mark]
  have sameFeeds : '\n' ∈ (code text).toList ↔ '\n' ∈ text.toList := by simp [spelled]
  constructor
  · intro fits
    exact ⟨fun feed => fits.oneLine (sameFeeds.mpr feed), sameBars ▸ fits.whole⟩
  · intro fits
    exact ⟨fun feed => fits.oneLine (sameFeeds.mp feed), sameBars.symm ▸ fits.whole⟩

theorem fitsCell_number (value : Nat) : FitsCell (number value) := by
  have digits : (number value).toList = Nat.toDigits 10 value := String.toList_ofList
  constructor
  · rw [digits]
    exact fun feed => absurd (Decimal.isDigit_of_mem feed) (by decide)
  · rw [digits]
    exact Markdown.bars_of_not_mem fun bar => absurd (Decimal.isDigit_of_mem bar) (by decide)

theorem fitsCell_append_iff {left right : String} :
    FitsCell (left ++ ", " ++ right) ↔ FitsCell left ∧ FitsCell right := by
  have comma : IsInert ',' := ⟨by decide, by decide⟩
  have blank : IsInert ' ' := ⟨by decide, by decide⟩
  have spelled : (left ++ ", " ++ right).toList = left.toList ++ ',' :: ' ' :: right.toList := by
    simp
  have sum : bars (left ++ ", " ++ right).toList = bars left.toList + bars right.toList := by
    rw [spelled, Markdown.bars_append_cons comma, Markdown.bars_cons blank]
  have feeds : '\n' ∈ (left ++ ", " ++ right).toList ↔
      '\n' ∈ left.toList ∨ '\n' ∈ right.toList := by
    simp [spelled]
  constructor
  · intro fits
    obtain ⟨leftWhole, rightWhole⟩ := Nat.add_eq_zero_iff.mp (sum ▸ fits.whole)
    exact ⟨⟨fun feed => fits.oneLine (feeds.mpr (.inl feed)), leftWhole⟩,
      ⟨fun feed => fits.oneLine (feeds.mpr (.inr feed)), rightWhole⟩⟩
  · rintro ⟨leftFits, rightFits⟩
    refine ⟨fun feed => (feeds.mp feed).elim leftFits.oneLine rightFits.oneLine, ?_⟩
    rw [sum, leftFits.whole, rightFits.whole]

theorem fitsCell_intercalate_iff {values : List String} :
    FitsCell (", ".intercalate values) ↔ ∀ value ∈ values, FitsCell value := by
  induction values with
  | nil => exact iff_of_true (by decide) fun value member => absurd member List.not_mem_nil
  | cons first others ih =>
    cases others with
    | nil => simp
    | cons next rest =>
      rw [String.intercalate_cons_cons, fitsCell_append_iff, ih]
      exact List.forall_mem_cons.symm

/-- The number of vertical lines in a text that a backslash before them takes. -/
def takenBars : List Char → Nat
  | [] => 0
  | '\\' :: c :: rest => (if c = '|' then 1 else 0) + takenBars rest
  | _ :: rest => takenBars rest

theorem takenBars_cons {c : Char} (notBackslash : c ≠ '\\') (rest : List Char) :
    takenBars (c :: rest) = takenBars rest := by
  rw [takenBars]
  exact fun _ _ starts => absurd starts notBackslash

/-- Escaping frees the vertical lines that a backslash takes, and takes the others. -/
theorem bars_escapeBars (text : String) :
    bars (escapeBars text).toList = takenBars text.toList := by
  rw [escapeBars, String.toList_ofList]
  induction text.toList using Markdown.bars_induction with
  | nil | lone => rfl
  | bar rest ih =>
    rw [takenBars_cons (by decide), ← ih, List.flatMap_cons, if_pos rfl]
    exact Markdown.bars_escaped '|' _
  | escaped c rest ih =>
    rw [takenBars, ← ih, List.flatMap_cons, List.flatMap_cons, if_neg (by decide)]
    by_cases bar : c = '|'
    · rw [if_pos bar, if_pos bar, Nat.add_comm]
      exact (Markdown.bars_escaped '\\' _).trans (Markdown.bars_bar _)
    · rw [if_neg bar, if_neg bar, Nat.zero_add]
      exact Markdown.bars_escaped c _
  | inert c rest inert ih =>
    rw [takenBars_cons inert.notBackslash, ← ih, List.flatMap_cons, if_neg inert.notBar]
    exact Markdown.bars_cons inert _

theorem fitsCell_escapeBars_iff {text : String} :
    FitsCell (escapeBars text) ↔ '\n' ∉ text.toList ∧ takenBars text.toList = 0 := by
  have feeds : '\n' ∈ (escapeBars text).toList ↔ '\n' ∈ text.toList := by
    rw [escapeBars, String.toList_ofList, List.mem_flatMap]
    constructor
    · rintro ⟨c, member, feed⟩
      split at feed
      · simp at feed
      · exact List.mem_singleton.mp feed ▸ member
    · exact fun member => ⟨'\n', member, by decide⟩
  constructor
  · intro fits
    exact ⟨fun feed => fits.oneLine (feeds.mpr feed), bars_escapeBars text ▸ fits.whole⟩
  · rintro ⟨noFeed, none⟩
    exact ⟨fun feed => noFeed (feeds.mp feed), (bars_escapeBars text).trans none⟩

theorem fitsCell_label (kind : WarningKind) : FitsCell kind.label := by
  cases kind <;> exact ⟨by decide, by decide⟩

/-! ### Rows of a report -/

/-- What a row of a report stands for. -/
inductive Row where
  | topKey (key : String) (count : Nat)
  | moduleCount (moduleKey : String) (count : Nat)
  | problematicFile (label : String) (count : Nat)
  | warning (raised : Warning)
  | measure (finding : Finding)
  | telemetry (key : String) (values : List String)

namespace Row

def texts : Row → List String
  | .topKey key count => [code key, number count]
  | .moduleCount moduleKey count => [moduleKey, number count]
  | .problematicFile label count => [code label, number count]
  | .warning raised => warningRow raised
  | .measure finding => [code finding.fileLabel, finding.key, finding.message]
  | .telemetry key values => [key, ", ".intercalate values]

/-- What the row stands for fits its cells. The message of a warning is escaped, so it must not hold
what escaping undoes; any other text must hold no vertical line that cuts. -/
def Fits : Row → Prop
  | .topKey key _ => FitsCell key
  | .moduleCount moduleKey _ => FitsCell moduleKey
  | .problematicFile label _ => FitsCell label
  | .warning raised =>
    (∀ moduleKey ∈ raised.moduleKey, FitsCell moduleKey) ∧
      (∀ path ∈ raised.path, FitsCell path.display) ∧
      '\n' ∉ raised.message.toList ∧ takenBars raised.message.toList = 0
  | .measure finding => FitsCell finding.fileLabel ∧ FitsCell finding.key ∧ FitsCell finding.message
  | .telemetry key values => FitsCell key ∧ ∀ value ∈ values, FitsCell value

theorem texts_ne_nil (row : Row) : row.texts ≠ [] := by
  cases row <;> exact List.cons_ne_nil _ _

theorem fits_iff (row : Row) : row.Fits ↔ ∀ text ∈ row.texts, FitsCell text := by
  cases row with
  | topKey key count | problematicFile label count =>
    simp [Fits, texts, fitsCell_code_iff, fitsCell_number]
  | moduleCount moduleKey count => simp [Fits, texts, fitsCell_number]
  | warning raised =>
    have dash : FitsCell "-" := by decide
    have moduleCell : FitsCell (raised.moduleKey.getD "-") ↔
        ∀ moduleKey ∈ raised.moduleKey, FitsCell moduleKey := by
      cases raised.moduleKey <;> simp [dash]
    have pathCell : FitsCell ((raised.path.map fun path => code path.display).getD "-") ↔
        ∀ path ∈ raised.path, FitsCell path.display := by
      cases raised.path <;> simp [dash, fitsCell_code_iff]
    simp only [Fits, texts, warningRow, List.forall_mem_cons, fitsCell_label, moduleCell, pathCell,
      fitsCell_escapeBars_iff, true_and]
    simp
  | measure finding => simp [Fits, texts, fitsCell_code_iff]
  | telemetry key values => simp [Fits, texts, fitsCell_intercalate_iff]

end Row

/-! ### Tables of a report -/

/-- A table of a report with what its rows stand for. -/
structure Listing where
  columns : List Column
  rows : List Row

namespace Listing

def table (listing : Listing) : Block :=
  .table listing.columns (listing.rows.map Row.texts)

/-- The line above the rows. -/
def head (listing : Listing) : String :=
  rowText (listing.columns.map (·.title))

def text (listing : Listing) : String :=
  listing.head ++ Markdown.alignmentText listing.columns ++
    String.join (listing.rows.map fun row => rowText row.texts)

/-- A table that is left out when it has no rows. -/
def ofRows (columns : List Column) (rows : List Row) : List Listing :=
  if rows = [] then [] else [⟨columns, rows⟩]

end Listing

/-- The tables of a report about keys, modules, files, warnings, measures and telemetry. -/
def listings (result : AnalysisResult) (includeMeasures : Bool) : List Listing :=
  Listing.ofRows [onLeft "Key", centred "Count"]
      ((Statistics.topKeys result.summary keyLimit).map fun entry => .topKey entry.1 entry.2) ++
    Listing.ofRows [onLeft "Module", centred "Issues"]
      ((Statistics.issuesByModule result.findings).entries.map fun entry =>
        .moduleCount entry.1 entry.2) ++
    Listing.ofRows [onLeft "File", centred "Issues"]
      ((Statistics.mostProblematicFiles result.findings fileLimit).map fun entry =>
        .problematicFile entry.1 entry.2) ++
    Listing.ofRows [onLeft "Kind", onLeft "Module", onLeft "Path", onLeft "Message"]
      (result.warnings.map .warning) ++
    if includeMeasures then
      Listing.ofRows [onLeft "File", onLeft "Metric", onRight "Value"]
          ((result.findings.filter (·.kind = .measure)).map .measure) ++
        Listing.ofRows [onLeft "Key", onLeft "Values"]
          (result.telemetry.entries.map fun entry => .telemetry entry.1 entry.2)
    else []

def isTable : Block → Bool
  | .table _ _ => true
  | .heading _ _ | .paragraph _ | .bullets _ | .rule => false

theorem map_table_ofRows {α : Type} (columns : List Column) (make : α → Row) (entries : List α) :
    (Listing.ofRows columns (entries.map make)).map Listing.table =
      if entries.isEmpty then []
      else [.table columns (entries.map fun entry => (make entry).texts)] := by
  cases entries with
  | nil => rfl
  | cons first others =>
    rw [Listing.ofRows, if_neg (by simp), List.map_singleton, Listing.table, List.map_map]
    rfl

theorem tables_countTable (heading title count : String) (spell : String → String)
    (entries : List (String × Nat)) :
    (countTable heading title count spell entries).filter isTable =
      if entries.isEmpty then []
      else [.table [onLeft title, centred count]
        (entries.map fun entry => [spell entry.1, number entry.2])] := by
  rw [countTable, apply_ite (List.filter isTable)]
  rfl

theorem tables_summary (result : AnalysisResult) :
    (Report.summary result).filter isTable =
      [kindTable result.summary, severityTable result.summary] ++
        ((countTable "Top Keys" "Key" "Count" code
            (Statistics.topKeys result.summary keyLimit)).filter isTable ++
          (countTable "Issues by Module" "Module" "Issues" id
            (Statistics.issuesByModule result.findings).entries).filter isTable ++
          (countTable "Most Problematic Files" "File" "Issues" code
            (Statistics.mostProblematicFiles result.findings fileLimit)).filter isTable) := by
  simp only [summary, List.filter_append, List.append_assoc]
  rfl

theorem tables_warnings (raised : List Warning) :
    (warnings raised).filter isTable =
      if raised.isEmpty then []
      else [.table [onLeft "Kind", onLeft "Module", onLeft "Path", onLeft "Message"]
        (raised.map warningRow)] := by
  rw [warnings, apply_ite (List.filter isTable)]
  rfl

theorem tables_issues (findings : List Finding) : (issues findings).filter isTable = [] := by
  have issue (issue : Finding) : (issueBlocks issue).filter isTable = [] := by
    rw [issueBlocks]
    split <;> rfl
  have part (subsection : Subsection) : subsection.blocks.filter isTable = [] := by
    rw [Subsection.blocks, List.filter_append, List.filter_flatMap]
    simp [issue, fileHeading, isTable]
  rw [issues_eq]
  split
  · rfl
  · rw [List.filter_cons_of_neg (by simp [isTable]), List.filter_flatMap]
    simp [part]

theorem tables_measures (findings : List Finding) :
    (measures findings).filter isTable =
      if (findings.filter (·.kind = .measure)).isEmpty then []
      else [.table [onLeft "File", onLeft "Metric", onRight "Value"]
        ((findings.filter (·.kind = .measure)).map fun finding =>
          [code finding.fileLabel, finding.key, finding.message])] := by
  rw [measures, List.filter_cons_of_neg (by simp [isTable]), apply_ite (List.filter isTable)]
  rfl

theorem tables_telemetry (table : KeyMap (List String)) :
    (telemetry table).filter isTable =
      if table.entries.isEmpty then []
      else [.table [onLeft "Key", onLeft "Values"]
        (table.entries.map fun entry => [entry.1, ", ".intercalate entry.2])] := by
  rw [telemetry, List.filter_cons_of_neg (by simp [isTable]), apply_ite (List.filter isTable)]
  rfl

/-- The tables of a report are two of fixed size and those that list something. -/
theorem tables_blocks (clock : Clock) (result : AnalysisResult) (includeMeasures : Bool) :
    (blocks clock result includeMeasures).filter isTable =
      [kindTable result.summary, severityTable result.summary] ++
        (listings result includeMeasures).map Listing.table := by
  have title : [Block.heading 1 "Scan Aggregation Report"].filter isTable = [] := rfl
  have rule : [Block.rule].filter isTable = [] := rfl
  have figures : (metadata clock result.figures).filter isTable = [] := rfl
  have links : (contents result includeMeasures).filter isTable = [] := rfl
  simp only [blocks, listings, List.filter_append, List.map_append, title, rule, figures, links,
    tables_summary, tables_countTable, tables_warnings, tables_issues, map_table_ofRows,
    List.append_assoc, List.append_nil, List.nil_append]
  cases includeMeasures with
  | false => rfl
  | true =>
    simp only [if_true, List.filter_append, List.map_append, tables_measures, tables_telemetry,
      map_table_ofRows]
    rfl

/-- A table with a head that fits it and, in each row, a text for each column. -/
structure Listing.Proper (listing : Listing) : Prop where
  some : listing.columns ≠ []
  titles : ∀ column ∈ listing.columns, FitsCell column.title
  texts : ∀ row ∈ listing.rows, row.texts.length = listing.columns.length

theorem proper_of_mem_ofRows {α : Type} {columns : List Column} {make : α → Row} {entries : List α}
    (some : columns ≠ []) (titles : ∀ column ∈ columns, FitsCell column.title)
    (texts : ∀ entry, (make entry).texts.length = columns.length) :
    ∀ listing ∈ Listing.ofRows columns (entries.map make), listing.Proper := by
  intro listing member
  rw [Listing.ofRows] at member
  split at member
  · cases member
  · obtain rfl := List.mem_singleton.mp member
    exact ⟨some, titles, List.forall_mem_map.mpr fun entry _ => texts entry⟩

theorem proper_of_mem_listings {result : AnalysisResult} {includeMeasures : Bool} :
    ∀ listing ∈ listings result includeMeasures, listing.Proper := by
  have extra : ∀ listing ∈ (if includeMeasures then
      Listing.ofRows [onLeft "File", onLeft "Metric", onRight "Value"]
          ((result.findings.filter (·.kind = .measure)).map .measure) ++
        Listing.ofRows [onLeft "Key", onLeft "Values"]
          (result.telemetry.entries.map fun entry => .telemetry entry.1 entry.2)
      else []), listing.Proper := by
    split
    · rw [List.forall_mem_append]
      exact ⟨proper_of_mem_ofRows (by decide) (by decide) fun _ => rfl,
        proper_of_mem_ofRows (by decide) (by decide) fun _ => rfl⟩
    · exact fun listing member => absurd member List.not_mem_nil
  rw [listings]
  simp only [List.forall_mem_append]
  exact ⟨⟨⟨⟨proper_of_mem_ofRows (by decide) (by decide) fun _ => rfl,
    proper_of_mem_ofRows (by decide) (by decide) fun _ => rfl⟩,
    proper_of_mem_ofRows (by decide) (by decide) fun _ => rfl⟩,
    proper_of_mem_ofRows (by decide) (by decide) fun _ => rfl⟩, extra⟩

/-- The lines of a report that are those of a table. -/
theorem exists_text_of_mem_listings (clock : Clock) {result : AnalysisResult}
    {includeMeasures : Bool} {listing : Listing}
    (member : listing ∈ listings result includeMeasures) :
    ∃ front behind, markdown clock result includeMeasures =
      front ++ "\n" ++ listing.text ++ "\n" ++ behind := by
  have inside : listing.table ∈ blocks clock result includeMeasures := by
    have listed : listing.table ∈ (blocks clock result includeMeasures).filter isTable := by
      rw [tables_blocks]
      exact List.mem_append_right _ (List.mem_map_of_mem member)
    exact (List.mem_filter.mp listed).1
  have text : listing.table.body = listing.text := by
    rw [Listing.table, Markdown.Block.body, Listing.text, List.map_map]
    rfl
  obtain ⟨before, behind, whole⟩ := List.append_of_mem inside
  -- a report does not start with a table, so a line ends before it
  have occurs : before ≠ [] := by
    rintro rfl
    cases (List.cons.inj whole).1
  obtain ⟨front, ends⟩ := exists_render_eq occurs
  refine ⟨front, Markdown.render behind ++ lastLine, ?_⟩
  rw [markdown, whole, render_append, render_cons, ends, text]
  simp only [String.append_assoc]

/-- What a report shows in its tables. -/
structure ShowsTables (clock : Clock) (result : AnalysisResult) (includeMeasures : Bool) :
    Prop where
  tables : (blocks clock result includeMeasures).filter isTable =
    [kindTable result.summary, severityTable result.summary] ++
      (listings result includeMeasures).map Listing.table
  text : ∀ listing ∈ listings result includeMeasures, ∃ front behind,
    markdown clock result includeMeasures = front ++ "\n" ++ listing.text ++ "\n" ++ behind
  heads : ∀ listing ∈ listings result includeMeasures,
    IsRow listing.columns.length listing.head ∧
      IsRow listing.columns.length (Markdown.alignmentText listing.columns)
  /-- A row is one line with as many cells as the head of its table exactly when what it stands for
  fits its cells. -/
  rows : ∀ listing ∈ listings result includeMeasures, ∀ row ∈ listing.rows,
    IsRow listing.columns.length (rowText row.texts) ↔ row.Fits
  cells : ∀ listing ∈ listings result includeMeasures, ∀ row ∈ listing.rows,
    row.Fits → ShowsCells row.texts (rowText row.texts)

/-- In every report the rows of the tables are rows as far as their texts fit their cells. -/
theorem shows_tables (clock : Clock) (result : AnalysisResult) (includeMeasures : Bool) :
    ShowsTables clock result includeMeasures := by
  refine ⟨tables_blocks clock result includeMeasures,
    fun listing member => exists_text_of_mem_listings clock member, ?_, ?_, ?_⟩
  · intro listing member
    have proper := proper_of_mem_listings listing member
    refine ⟨?_, Markdown.isRow_alignmentText listing.columns⟩
    have titles : listing.columns.map (·.title) ≠ [] := by simpa using proper.some
    rw [Listing.head, ← List.length_map (·.title), Markdown.isRow_rowText_iff titles]
    exact List.forall_mem_map.mpr proper.titles
  · intro listing member row inside
    rw [← (proper_of_mem_listings listing member).texts row inside,
      Markdown.isRow_rowText_iff row.texts_ne_nil, row.fits_iff]
  · intro listing member row inside fits
    exact Markdown.showsCells_rowText row.texts_ne_nil (row.fits_iff.mp fits)

/-- A warning about a module whose key holds a vertical line. -/
def tornWarning : Warning :=
  { kind := .skippedArtifact, moduleKey := some "App|Tests", path := none, message := "Left | out" }

/-- The key cuts the row of the warning into more cells than its table has columns; the message does
not. -/
theorem shows_tables_torn :
    let result := { sharedResult with warnings := [tornWarning] }
    ∃ listing ∈ listings result false, Row.warning tornWarning ∈ listing.rows ∧
      listing.columns.length = 4 ∧ ¬ IsRow 4 (rowText (warningRow tornWarning)) ∧
      (Markdown.cells (Markdown.rowLine (warningRow tornWarning))).length = 5 := by
  intro result
  have member : (⟨[onLeft "Kind", onLeft "Module", onLeft "Path", onLeft "Message"],
      [.warning tornWarning]⟩ : Listing) ∈ listings result false := by
    simp [listings, Listing.ofRows, result]
  have shows := shows_tables ⟨.epoch, .zero false⟩ result false
  refine ⟨_, member, List.mem_singleton_self _, rfl, ?_, ?_⟩
  · intro isRow
    have fits := (shows.rows _ member _ (List.mem_singleton_self _)).mp isRow
    exact absurd (fits.1 "App|Tests" rfl) (by decide)
  · rw [Markdown.length_cells_rowLine]
    decide

end ScanMerge.Report
