import ScanMerge.Proofs.PublishedFindings
import ScanMerge.Proofs.Spellings

/-!
Asking where reported paths lead. What was found for a path is remembered by its segments, so every
answer is the one for the spelling that was asked for first. Another spelling has the same answer,
except that one with a separator or a `.` at its end does not lead to a file.
-/

set_option autoImplicit false

namespace ScanMerge

namespace Path

/-- The paths agree but for what leads nowhere in their spelling. -/
structure Alike (left right : Path) : Prop where
  absolute : left.isAbsolute = right.isAbsolute
  leading : leading (parts left.bytes) = Path.leading (parts right.bytes)
  empty : left.bytes = [] ↔ right.bytes = []

theorem alike_of_same {left right : Path} (same : left.same right = true) : left.Alike right where
  absolute := isAbsolute_of_same same
  leading := leading_of_same same
  empty := by
    rw [bytes_eq_nil_iff, bytes_eq_nil_iff, isAbsolute_of_same same, same_iff.mp same]

theorem Alike.symm {left right : Path} (alike : left.Alike right) : right.Alike left :=
  ⟨alike.absolute.symm, alike.leading.symm, alike.empty.symm⟩

theorem bytes_join_eq_nil_iff (base : Path) {path : Path} (relative : path.isAbsolute = false) :
    (base.join path).bytes = [] ↔ base.bytes = [] ∧ path.bytes = [] := by
  rw [join, if_neg (by simp [relative])]
  split
  · exact List.append_eq_nil_iff
  · next ends => simp at ends ⊢; exact fun none => absurd none ends.1

theorem Alike.join {left right : Path} (alike : left.Alike right) (base : Path) :
    (base.join left).Alike (base.join right) := by
  cases absolute : left.isAbsolute with
  | true =>
    have otherAbsolute := alike.absolute.symm.trans absolute
    rwa [join_absolute absolute, join_absolute otherAbsolute]
  | false =>
    have relative := alike.absolute.symm.trans absolute
    obtain ⟨before, joined, -⟩ := exists_parts_join base
    refine ⟨?_, ?_, ?_⟩
    · rw [isAbsolute_join, isAbsolute_join, alike.absolute]
    · rw [joined left absolute, joined right relative, Path.leading, Path.leading,
        List.filter_append, List.filter_append]
      exact congrArg (before.filter _ ++ ·) alike.leading
    · rw [bytes_join_eq_nil_iff base absolute, bytes_join_eq_nil_iff base relative, alike.empty]

end Path

namespace Disk

theorem checkSpelling_of_alike {left right : Path} (alike : left.Alike right) :
    checkSpelling left = checkSpelling right := by
  have notSeparator : (0 : UInt8) ≠ Path.separator := by decide
  have notDot : (0 : UInt8) ≠ Path.dot := by decide
  have nul : left.bytes.contains 0 = right.bytes.contains 0 := by
    rw [Bool.eq_iff_iff, List.contains_iff_mem, List.contains_iff_mem,
      Path.mem_iff_mem_leading notSeparator notDot, Path.mem_iff_mem_leading notSeparator notDot,
      alike.leading]
  rw [checkSpelling, checkSpelling, nul]
  simp only [alike.empty]

theorem follow_parts (disk : Disk) (links : Nat) (here : Location) (path : Path) :
    disk.follow links here (Path.parts path.bytes) =
      disk.follow links here
        (Path.leading (Path.parts path.bytes) ++ if path.trails then [[]] else []) := by
  rw [follow_tidy, Path.tidy_eq, Path.trails]

variable (disk : Disk) {left right : Path} (alike : left.Alike right)

include alike

theorem locate_of_trails_eq (ends : left.trails = right.trails) :
    disk.locate left = disk.locate right := by
  rw [locate, locate, checkSpelling_of_alike alike, start, start, alike.absolute, follow_parts,
    follow_parts disk _ _ right, alike.leading, ends]

/-- With a separator at its end a path does not lead to a file. -/
theorem locate_of_trails (trails : left.trails = true) (plain : right.trails = false) :
    disk.locate left = disk.locate right ∨
      (disk.locate left = .error .notDirectory ∧
        ∃ location content, disk.locate right = .ok location ∧
          disk.at? location = some (.file content)) := by
  have spelled := checkSpelling_of_alike alike
  have start : disk.start left = disk.start right := by rw [start, start, alike.absolute]
  have followLeft := follow_parts disk linkLimit (disk.start left) left
  have followRight := follow_parts disk linkLimit (disk.start right) right
  rw [trails, if_pos rfl, start, alike.leading] at followLeft
  rw [plain, if_neg Bool.false_ne_true, List.append_nil] at followRight
  simp only [locate, spelled, start, followLeft, followRight, bind, Except.bind]
  cases checkSpelling right with
  | error error => exact .inl rfl
  | ok =>
    rcases follow_snoc_empty disk _ _ (Path.leading (Path.parts right.bytes)) with
      same | ⟨fails, arrival, content, arrives, file⟩
    · exact .inl (by rw [same])
    · exact .inr ⟨by rw [fails], arrival.location, content, by rw [arrives]; rfl, file⟩

end Disk

namespace Session

variable (session : Session) (disk : Disk) (moduleKey : String)

/-- Of two spellings the first one leads nowhere, for the separator or `.` at its end, and the
second one to a file. -/
structure PassesFile (trailing plain : Path) : Prop where
  trails : trailing.trails = true
  ends : plain.trails = false
  passes : session.resolve? disk moduleKey trailing = none
  file : ∃ location content, session.resolve? disk moduleKey plain = some location.path ∧
    disk.at? location = some (.file content)

theorem resolve?_eq (path : Path) :
    session.resolve? disk moduleKey path = (session.modules.get? moduleKey).bind fun module =>
      (disk.locate (module.root.join path)).toOption.map Location.path := by
  rw [resolve?]
  cases session.modules.get? moduleKey with
  | none => rfl
  | some module =>
    simp only [Option.bind_some, Disk.resolveIn, Disk.resolve, Disk.canonicalize]
    cases disk.locate (module.root.join path) with
    | ok location => rfl
    | error error => cases error <;> rfl

variable {left right : Path} (same : left.same right = true)

include same

theorem resolve?_of_trails_eq (ends : left.trails = right.trails) :
    session.resolve? disk moduleKey left = session.resolve? disk moduleKey right := by
  rw [resolve?_eq, resolve?_eq]
  cases session.modules.get? moduleKey with
  | none => rfl
  | some module =>
    have alike := (Path.alike_of_same same).join module.root
    rw [Option.bind_some, Option.bind_some, disk.locate_of_trails_eq alike]
    rw [Path.trails_join, Path.trails_join, ends]

theorem resolve?_of_trails (trails : left.trails = true) (plain : right.trails = false) :
    session.resolve? disk moduleKey left = session.resolve? disk moduleKey right ∨
      session.PassesFile disk moduleKey left right := by
  have leftEq := session.resolve?_eq disk moduleKey left
  have rightEq := session.resolve?_eq disk moduleKey right
  cases found : session.modules.get? moduleKey with
  | none => exact .inl (by rw [leftEq, rightEq, found]; rfl)
  | some module =>
    rw [found, Option.bind_some] at leftEq rightEq
    have alike := (Path.alike_of_same same).join module.root
    have joinedTrails := (Path.trails_join module.root left).trans trails
    have joinedPlain := (Path.trails_join module.root right).trans plain
    rcases disk.locate_of_trails alike joinedTrails joinedPlain with
      equal | ⟨fails, location, content, leads, file⟩
    · exact .inl (by rw [leftEq, rightEq, equal])
    · refine .inr ⟨trails, plain, ?_, location, content, ?_, file⟩
      · rw [leftEq, fails]
        rfl
      · rw [rightEq, leads]
        rfl

/-- Spellings of one path lead to the same place, or the one that ends with a separator or `.`
passes a file. -/
theorem resolve?_of_same :
    session.resolve? disk moduleKey left = session.resolve? disk moduleKey right ∨
      session.PassesFile disk moduleKey left right ∨
      session.PassesFile disk moduleKey right left := by
  cases leftEnds : left.trails with
  | false =>
    cases rightEnds : right.trails with
    | false =>
      exact .inl (session.resolve?_of_trails_eq disk moduleKey same (leftEnds.trans rightEnds.symm))
    | true =>
      have swapped : right.same left = true := by rwa [Path.same_comm]
      rcases session.resolve?_of_trails disk moduleKey swapped rightEnds leftEnds with
        equal | passes
      · exact .inl equal.symm
      · exact .inr (.inr passes)
  | true =>
    cases rightEnds : right.trails with
    | false =>
      exact (session.resolve?_of_trails disk moduleKey same leftEnds rightEnds).imp_right .inl
    | true =>
      exact .inl (session.resolve?_of_trails_eq disk moduleKey same (leftEnds.trans rightEnds.symm))

end Session

namespace Merge

/-- A question about a path that is reported for a module. -/
inductive Query where
  /-- Where does the path lead? -/
  | resolve (moduleKey : String) (path : Path)
  /-- Where does it lead, if findings there are kept although some files are said to be
  generated? -/
  | included (moduleKey : String) (path : Path) (generated : List Path)

namespace Query

/-- The module of a question. -/
def moduleKey : Query → String
  | .resolve moduleKey _ => moduleKey
  | .included moduleKey _ _ => moduleKey

def path : Query → Path
  | .resolve _ path => path
  | .included _ path _ => path

/-- What a question looks up. -/
def lookup (query : Query) : String × Path :=
  (query.moduleKey, query.path)

/-- The answer to a question when its path was found to lead somewhere. -/
def select (session : Session) : Query → Option Path → Option Path
  | .resolve _ _, found => found
  | .included _ _ generated, found => found.filter (isKept session generated)

/-- The answer to a question when nothing is remembered. -/
def answer (session : Session) (disk : Disk) (query : Query) : Option Path :=
  query.select session (session.resolve? disk query.moduleKey query.path)

/-- The answer to a question when its path is spelled differently. -/
def answerAs (session : Session) (disk : Disk) (query : Query) (spelled : Path) : Option Path :=
  query.select session (session.resolve? disk query.moduleKey spelled)

end Query

namespace Resolutions

/-- Answers a question, and remembers where its path leads. -/
def ask (known : Resolutions) (session : Session) (disk : Disk) (query : Query) :
    Option Path × Resolutions :=
  let (found, known) := known.resolve session disk query.moduleKey query.path
  (query.select session found, known)

def askAll (known : Resolutions) (session : Session) (disk : Disk) :
    List Query → List (Option Path)
  | [] => []
  | query :: rest =>
    let (answer, known) := known.ask session disk query
    answer :: known.askAll session disk rest

end Resolutions

section Passes

variable (session : Session) (disk : Disk) (known : Resolutions)

/-- The generated files of a merge are the answers to such questions. -/
theorem resolveAll_eq_askAll (paths : List (String × Path)) :
    (resolveAll session disk known paths).1 =
      (known.askAll session disk (paths.map fun path => .resolve path.1 path.2)).reduceOption := by
  induction paths generalizing known with
  | nil => rfl
  | cons head rest ih =>
    obtain ⟨moduleKey, path⟩ := head
    simp only [resolveAll, ih, List.map_cons, Resolutions.askAll, Resolutions.ask, Query.select,
      Query.moduleKey, Query.path]
    cases (known.resolve session disk moduleKey path).1 with
    | none => rfl
    | some canonical => rfl

/-- A finding in a file is kept when the question about its file has an answer. -/
theorem located_cons_eq_ask (generated : List Path) (moduleKey : String) {finding : Finding}
    {path : Path} (inFile : finding.sourceFile = some path) (rest : List (String × Finding)) :
    located session disk generated known ((moduleKey, finding) :: rest) =
      let (answer, known) := known.ask session disk (.included moduleKey path generated)
      let after := located session disk generated known rest
      answer.elim after.drop fun canonical =>
        after.keep { finding with sourceFile := some canonical } := by
  simp only [located, inFile, Resolutions.ask, Query.select, Query.moduleKey, Query.path]
  cases (known.resolve session disk moduleKey path).1 with
  | none => rfl
  | some canonical =>
    cases kept : isKept session generated canonical with
    | false => simp [Option.filter, kept]
    | true => simp [Option.filter, kept]

end Passes

namespace Resolutions

variable {session : Session} {disk : Disk}

/-- What is remembered when the questions so far looked up `met` decides every later answer. -/
theorem askAll_of_answer {known : Resolutions} {met : List (String × Path)}
    (answers : known.Answer session disk met) (before : List Query) (query : Query)
    (after : List Query) :
    (known.askAll session disk (before ++ query :: after))[before.length]? =
      some (query.answerAs session disk
        (Published.firstSpelling (met ++ before.map Query.lookup) query.moduleKey query.path)) := by
  induction before generalizing known met with
  | nil =>
    have first := resolve_fst answers query.moduleKey query.path []
    simp only [List.nil_append, List.length_nil, askAll, ask, List.getElem?_cons_zero,
      List.map_nil, List.append_nil, Query.answerAs, first, Published.canonical?,
      Published.firstSpelling, List.find?_append]
    cases met.find? (Published.spells query.moduleKey query.path) with
    | none => simp [Published.spells_self]
    | some found => rfl
  | cons earlier rest ih =>
    have later := ih (resolve_snd answers earlier.moduleKey earlier.path)
    rw [List.append_assoc] at later
    rw [List.cons_append, List.length_cons, askAll, List.getElem?_cons_succ]
    exact later

end Resolutions

theorem mem_of_firstSpelling_ne {queries : List Query} {moduleKey : String} {path : Path}
    (other : Published.firstSpelling (queries.map Query.lookup) moduleKey path ≠ path) :
    ∃ earlier ∈ queries, earlier.moduleKey = moduleKey ∧ earlier.path.same path = true ∧
      earlier.path = Published.firstSpelling (queries.map Query.lookup) moduleKey path := by
  rw [Published.firstSpelling] at other ⊢
  cases found : (queries.map Query.lookup).find? (Published.spells moduleKey path) with
  | none =>
    rw [found] at other
    exact absurd rfl other
  | some lookup =>
    obtain ⟨earlier, member, rfl⟩ := List.mem_map.mp (List.mem_of_find?_eq_some found)
    have spells := List.find?_some found
    rw [Published.spells, Bool.and_eq_true, decide_eq_true_eq] at spells
    exact ⟨earlier, member, spells.1, spells.2, rfl⟩

/-- The answers to any sequence of questions. Each is the one for the spelling of the path that was
met first. It is that for the spelling in question, unless an earlier question of the same module
spelled the path differently at its end, and the path leads to a file. -/
theorem answers_first_spelling (session : Session) (disk : Disk) (before : List Query)
    (query : Query) (after : List Query) :
    ∃ spelled,
      (Resolutions.empty.askAll session disk (before ++ query :: after))[before.length]? =
        some (query.answerAs session disk spelled) ∧
      spelled = Published.firstSpelling (before.map Query.lookup) query.moduleKey query.path ∧
      (query.answerAs session disk spelled = query.answer session disk ∨
        (∃ earlier ∈ before, earlier.lookup = (query.moduleKey, spelled)) ∧
          (session.PassesFile disk query.moduleKey spelled query.path ∨
            session.PassesFile disk query.moduleKey query.path spelled)) := by
  refine ⟨_,
    Resolutions.askAll_of_answer (Resolutions.answer_empty session disk) before query after,
    rfl, ?_⟩
  rw [List.nil_append]
  by_cases first :
      Published.firstSpelling (before.map Query.lookup) query.moduleKey query.path = query.path
  · exact .inl (by rw [first]; rfl)
  · obtain ⟨earlier, member, sameModule, same, spelled⟩ := mem_of_firstSpelling_ne first
    rw [← spelled]
    rcases session.resolve?_of_same disk query.moduleKey same with equal | passes
    · exact .inl (congrArg (query.select session) equal)
    · exact .inr ⟨⟨earlier, member, by rw [Query.lookup, sameModule]⟩, passes⟩

/-- The file `X` in the root directory. -/
def fileDisk : Disk :=
  Disk.empty.putFile [] [0x58] []

/-- A session with one module, the root of which is the root directory. -/
def oneModule : Session :=
  { Session.ofSettings {} with
    modules := (ModuleTable.register .empty ⟨"App", ⟨[0x2F]⟩, .main⟩).2 }

/-- Answers are not those of a memory without spellings: once `X/` was asked for, the file `X` is
not found, either. -/
theorem askAll_hides_file :
    Resolutions.empty.askAll oneModule fileDisk
        [.resolve "App" ⟨[0x58, 0x2F]⟩, .resolve "App" ⟨[0x58]⟩] = [none, none] ∧
      (Query.resolve "App" ⟨[0x58]⟩).answer oneModule fileDisk = some ⟨[0x2F, 0x58]⟩ := by
  have known : oneModule.modules.get? "App" = some ⟨"App", ⟨[0x2F]⟩, .main⟩ := rfl
  have trailing : oneModule.resolve? fileDisk "App" ⟨[0x58, 0x2F]⟩ = none := by
    have fails : fileDisk.locate (Path.join ⟨[0x2F]⟩ ⟨[0x58, 0x2F]⟩) = .error .notDirectory := by
      decide +kernel
    rw [Session.resolve?_eq, known, Option.bind_some, fails]
    rfl
  have plain : oneModule.resolve? fileDisk "App" ⟨[0x58]⟩ = some ⟨[0x2F, 0x58]⟩ := by
    have leads : fileDisk.locate (Path.join ⟨[0x2F]⟩ ⟨[0x58]⟩) = .ok [[0x58]] := by decide +kernel
    rw [Session.resolve?_eq, known, Option.bind_some, leads]
    rfl
  refine ⟨?_, plain⟩
  simp only [Resolutions.askAll, Resolutions.ask, Resolutions.resolve, Resolutions.empty,
    Query.moduleKey, Query.path, Query.select, List.lookup_nil, trailing]
  rfl

end Merge

end ScanMerge
