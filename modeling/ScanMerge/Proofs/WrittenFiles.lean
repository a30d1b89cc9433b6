import ScanMerge.Proofs.Outcomes
import ScanMerge.Proofs.Spellings

/-!
Writing a file to a disk. A write puts one file in its place, where no other thing but a file was;
all other entries stay, and the path leads to the new content.
-/

set_option autoImplicit false

namespace ScanMerge

/-- An entry without what a folder holds. -/
def Entry.surface : Entry → Entry
  | .file content => .file content
  | .link target => .link target
  | .folder _ => .folder .empty

namespace Folder

/-! ### Entries of a folder -/

theorem find?_put_self (name : Name) (entry : Entry) (folder : Folder) :
    (folder.put name entry).find? name = some entry := by
  induction folder using consInduction with
  | empty => rw [put, find?_cons, if_pos rfl]
  | cons other present rest _ ih => grind [put_cons, find?_cons]

theorem find?_put_of_ne {name wanted : Name} (different : wanted ≠ name) (entry : Entry)
    (folder : Folder) : (folder.put name entry).find? wanted = folder.find? wanted := by
  induction folder using consInduction with
  | empty => rw [put, find?_cons, if_neg (Ne.symm different)]
  | cons other present rest _ ih => grind [put_cons, find?_cons]

theorem find?_change_self {name : Name} {inner : Folder} (f : Folder → Folder) {folder : Folder}
    (found : folder.find? name = some (.folder inner)) :
    (folder.change name f).find? name = some (.folder (f inner)) := by
  induction folder using consInduction with
  | empty => cases found
  | cons other entry rest _ ih =>
    rw [find?_cons] at found
    obtain ⟨within, rfl, rfl, changed⟩ | ⟨elsewhere, changed⟩ :=
      change_cons other name entry rest f
    · cases (if_pos rfl).symm.trans found
      rw [changed, find?_cons, if_pos rfl]
    · have different : other ≠ name := by
        intro same
        rw [if_pos same] at found
        exact elsewhere inner (Option.some.inj found) same
      rw [if_neg different] at found
      rw [changed, find?_cons, if_neg different, ih found]

theorem find?_change_of_ne {name wanted : Name} (different : wanted ≠ name) (f : Folder → Folder)
    (folder : Folder) : (folder.change name f).find? wanted = folder.find? wanted := by
  induction folder using consInduction with
  | empty => rfl
  | cons other entry rest _ ih =>
    obtain ⟨within, rfl, rfl, changed⟩ | ⟨-, changed⟩ := change_cons other name entry rest f
    · rw [changed, find?_cons, find?_cons, if_neg different.symm, if_neg different.symm]
    · rw [changed, find?_cons, find?_cons, ih]

/-! ### Entries of a tree -/

@[simp] theorem at?_nil (folder : Folder) : folder.at? [] = some (.folder folder) := by rw [at?]

theorem at?_cons_of_folder {folder inner : Folder} {name : Name}
    (found : folder.find? name = some (.folder inner)) (rest : Location) :
    folder.at? (name :: rest) = inner.at? rest := by
  rw [at?, found]

theorem at?_cons_congr {left right : Folder} {name : Name}
    (same : left.find? name = right.find? name) (rest : Location) :
    left.at? (name :: rest) = right.at? (name :: rest) := by
  rw [at?, same, at?]

theorem at?_singleton (folder : Folder) (name : Name) : folder.at? [name] = folder.find? name := by
  rw [at?]
  cases folder.find? name with
  | none => rfl
  | some entry =>
    cases entry with
    | folder inner => exact at?_nil inner
    | file | link => rfl

/-- On the way to an entry stand folders. -/
theorem at?_cons_isFolder {folder : Folder} {name next : Name} {rest : Location} {entry : Entry}
    (found : folder.at? (name :: next :: rest) = some entry) :
    ∃ inner, folder.find? name = some (.folder inner) ∧ inner.at? (next :: rest) = some entry := by
  rw [at?] at found
  split at found
  · next inner isFolder => exact ⟨inner, isFolder, found⟩
  · rw [if_neg (List.cons_ne_nil _ _)] at found
    cases found
  · cases found

/-- A folder inside is reached through a folder. -/
theorem exists_folder_of_at?_cons {folder inner : Folder} {name : Name} {rest : Location}
    (isFolder : folder.at? (name :: rest) = some (.folder inner)) :
    ∃ next, folder.find? name = some (.folder next) ∧ next.at? rest = some (.folder inner) := by
  cases rest with
  | nil =>
    rw [at?_singleton] at isFolder
    exact ⟨inner, isFolder, at?_nil inner⟩
  | cons second rest => exact at?_cons_isFolder isFolder

/-- The parent of an entry is a folder, which holds it. -/
theorem at?_snoc {folder : Folder} {location : Location} {name : Name} {entry : Entry}
    (found : folder.at? (location ++ [name]) = some entry) :
    ∃ inner, folder.at? location = some (.folder inner) ∧ inner.find? name = some entry := by
  induction location generalizing folder with
  | nil =>
    rw [List.nil_append, at?_singleton] at found
    exact ⟨folder, at?_nil folder, found⟩
  | cons first rest ih =>
    obtain ⟨next, more, split⟩ : ∃ next more, rest ++ [name] = next :: more :=
      List.exists_cons_of_ne_nil (by simp)
    rw [List.cons_append, split] at found
    obtain ⟨inner, isFolder, below⟩ := at?_cons_isFolder found
    rw [← split] at below
    obtain ⟨parent, isParent, holds⟩ := ih below
    exact ⟨parent, (at?_cons_of_folder isFolder rest).trans isParent, holds⟩

section Put

variable {folder inner : Folder} {location : Location} (name : Name) (entry : Entry)
  (isFolder : folder.at? location = some (.folder inner))

include isFolder

theorem at?_changeAt_put_self :
    (changeAt (put name entry) location folder).at? (location ++ [name]) = some entry := by
  induction location generalizing folder with
  | nil => rw [List.nil_append, at?_singleton, changeAt, find?_put_self]
  | cons first rest ih =>
    obtain ⟨next, found, below⟩ := exists_folder_of_at?_cons isFolder
    rw [List.cons_append, changeAt, at?_cons_of_folder (find?_change_self _ found)]
    exact ih below

/-- Another place keeps its entry, and if that is a folder it is one still. -/
theorem at?_changeAt_put_of_ne {other : Location} (different : other ≠ location ++ [name])
    (room : folder.at? (location ++ [name]) = none ∨
      ∃ content, folder.at? (location ++ [name]) = some (.file content))
    {content : List UInt8} :
    ((changeAt (put name (.file content)) location folder).at? other).map Entry.surface =
      (folder.at? other).map Entry.surface := by
  induction location generalizing folder other with
  | nil =>
    rw [at?_nil] at isFolder
    rw [List.nil_append] at different room
    rw [at?_singleton] at room
    rw [changeAt]
    cases other with
    | nil => rw [at?_nil, at?_nil]; rfl
    | cons first rest =>
      by_cases same : first = name
      · -- Behind the file there is nothing, as there was nothing before.
        subst same
        have more : rest ≠ [] := fun none => different (by rw [none])
        have after : (put first (.file content) folder).at? (first :: rest) = none := by
          rw [at?, find?_put_self]
          exact if_neg more
        have before : folder.at? (first :: rest) = none := by
          rcases room with none | ⟨old, file⟩
          · rw [at?, none]
          · rw [at?, file]
            exact if_neg more
        rw [after, before]
      · rw [at?_cons_congr (find?_put_of_ne same _ folder)]
  | cons first rest ih =>
    obtain ⟨next, found, below⟩ := exists_folder_of_at?_cons isFolder
    rw [List.cons_append] at different room
    rw [at?_cons_of_folder found] at room
    rw [changeAt]
    cases other with
    | nil => rw [at?_nil, at?_nil]; rfl
    | cons second more =>
      by_cases same : second = first
      · subst same
        rw [at?_cons_of_folder (find?_change_self _ found), at?_cons_of_folder found]
        exact ih below (fun equal => different (by rw [equal])) room
      · rw [at?_cons_congr (find?_change_of_ne same _ folder)]

end Put

end Folder

namespace Disk

/-- A folder stands at the location. -/
def IsFolder (disk : Disk) (location : Location) : Prop :=
  ∃ inner, disk.at? location = some (.folder inner)

/-- The location is free for a file: nothing stands there but possibly a file. -/
def HasRoom (disk : Disk) (location : Location) : Prop :=
  disk.at? location = none ∨ ∃ content, disk.at? location = some (.file content)

/-- The later disk is the earlier one with a file put at a location. -/
structure Puts (before after : Disk) (location : Location) (content : List UInt8) : Prop where
  working : after.working = before.working
  room : before.HasRoom location
  placed : after.at? location = some (.file content)
  others : ∀ other, other ≠ location →
    (after.at? other).map Entry.surface = (before.at? other).map Entry.surface

theorem isFolder_root (disk : Disk) : disk.IsFolder [] :=
  ⟨disk.root, by rw [at?, Folder.at?_nil]⟩

theorem IsFolder.dropLast {disk : Disk} {location : Location} (isFolder : disk.IsFolder location) :
    disk.IsFolder location.dropLast := by
  by_cases root : location = []
  · rw [root]
    exact disk.isFolder_root
  · obtain ⟨inner, found⟩ := isFolder
    rw [← List.dropLast_append_getLast root] at found
    obtain ⟨parent, isParent, -⟩ := Folder.at?_snoc found
    exact ⟨parent, isParent⟩

theorem puts_putFile {disk : Disk} {directory : Location} {name : Name}
    (isFolder : disk.IsFolder directory) (room : disk.HasRoom (directory ++ [name]))
    (content : List UInt8) :
    disk.Puts (disk.putFile directory name content) (directory ++ [name]) content := by
  obtain ⟨inner, found⟩ := isFolder
  exact
    { working := rfl
      room
      placed := Folder.at?_changeAt_put_self name (.file content) found
      others := fun other different => Folder.at?_changeAt_put_of_ne name found different room }

/-! ### Following a way -/

/-- Whatever shows the way is on both disks: folders are folders, and links lead where they did. -/
structure Guides (before after : Disk) : Prop where
  folder : ∀ location, before.IsFolder location → after.IsFolder location
  link : ∀ location target, before.at? location = some (.link target) →
    after.at? location = some (.link target)

theorem Guides.refl (disk : Disk) : disk.Guides disk :=
  ⟨fun _ isFolder => isFolder, fun _ _ link => link⟩

theorem Puts.guides {before after : Disk} {location : Location} {content : List UInt8}
    (puts : before.Puts after location content) : before.Guides after := by
  have kept : ∀ {other entry}, before.at? other = some entry → (∀ old, entry ≠ .file old) →
      ∃ later, after.at? other = some later ∧ later.surface = entry.surface := by
    intro other entry found notFile
    have elsewhere : other ≠ location := by
      rintro rfl
      rcases puts.room with none | ⟨old, file⟩
      · rw [none] at found
        cases found
      · rw [file] at found
        exact notFile old (Option.some.inj found).symm
    have same := puts.others other elsewhere
    rw [found] at same
    exact Option.map_eq_some_iff.mp same
  constructor
  · rintro other ⟨inner, found⟩
    obtain ⟨later, stands, surface⟩ := kept found fun _ => Entry.noConfusion
    cases later with
    | folder inner => exact ⟨inner, stands⟩
    | file | link => cases surface
  · intro other target found
    obtain ⟨later, stands, surface⟩ := kept found fun _ => Entry.noConfusion
    cases later with
    | link target => cases surface; exact stands
    | file | folder => cases surface

/-- What holds of the end of a way holds of the way with a part before it. -/
theorem Arrives.behind_cons {disk : Disk} {links : Nat} {here : Location}
    (isFolder : disk.IsFolder here) {rest : List Name} {arrival : Arrival links}
    (arrives : disk.Arrives links here rest arrival)
    (behind : disk.IsFolder arrival.location ∨ rest.getLast?.any Path.stays = false) (part : Name) :
    disk.IsFolder arrival.location ∨ (part :: rest).getLast?.any Path.stays = false := by
  rcases behind with folder | named
  · exact .inl folder
  · by_cases last : rest = []
    · subst last
      cases arrives
      exact .inl isFolder
    · rw [List.getLast?_cons_of_ne_nil last]
      exact .inr named

theorem IsName.not_stays {part : Name} (name : IsName part) : Path.stays part = false := by
  rw [← Bool.not_eq_true, Path.stays_iff]
  exact name.leads

/-- A way from a folder ends at a folder, or with the name of a file. -/
theorem Arrives.behind {disk : Disk} {links : Nat} {here : Location} {parts : List Name}
    {arrival : Arrival links} (arrives : disk.Arrives links here parts arrival)
    (isFolder : disk.IsFolder here) :
    disk.IsFolder arrival.location ∨ parts.getLast?.any Path.stays = false := by
  induction arrives with
  | done => exact .inl isFolder
  | stays _ onward ih => exact onward.behind_cons isFolder (ih isFolder) _
  | up _ _ onward ih => exact onward.behind_cons isFolder.dropLast (ih isFolder.dropLast) _
  | folder _ found onward ih => exact onward.behind_cons ⟨_, found⟩ (ih ⟨_, found⟩) _
  | file name _ => exact .inr (by simpa using name.not_stays)
  | @link left here part rest name target _ reached _ ih =>
    have start : disk.IsFolder (if target.isAbsolute then [] else here) := by
      split
      · exact disk.isFolder_root
      · exact isFolder
    rcases ih start with folder | named
    · exact .inl folder
    · by_cases last : rest = []
      · rw [last]
        exact .inr (by simpa using name.not_stays)
      · rw [List.getLast?_append_of_ne_nil _ last] at named
        rw [List.getLast?_cons_of_ne_nil last]
        exact .inr named

/-- The same way leads to the same folder on a disk that has all that shows the way. -/
theorem Guides.arrives {before after : Disk} (guides : before.Guides after) {links : Nat}
    {here : Location} {parts : List Name} {arrival : Arrival links}
    (arrives : before.Arrives links here parts arrival)
    (isFolder : before.IsFolder arrival.location) :
    after.Arrives links here parts arrival := by
  induction arrives with
  | done => exact .done
  | stays stays _ ih => exact .stays stays (ih isFolder)
  | up leads up _ ih => exact .up leads up (ih isFolder)
  | folder name found _ ih =>
    obtain ⟨other, otherFound⟩ := guides.folder _ ⟨_, found⟩
    exact .folder name otherFound (ih isFolder)
  | file name found =>
    obtain ⟨inner, isInner⟩ := isFolder
    rw [found] at isInner
    cases isInner
  | link name found _ ih => exact .link name (guides.link _ _ found) (ih isFolder)

/-- A way through a folder goes on from there. -/
theorem follow_append {disk : Disk} {links : Nat} {here : Location} {parts : List Name}
    {arrival : Arrival links} (arrives : disk.Arrives links here parts arrival)
    (isFolder : disk.IsFolder arrival.location) (more : List Name) :
    (disk.follow links here (parts ++ more)).map Arrival.location =
      (disk.follow arrival.left arrival.location more).map Arrival.location := by
  induction arrives with
  | done => rw [List.nil_append]
  | stays stays _ ih =>
    rw [List.cons_append, follow_of_stays stays]
    exact ih isFolder
  | up leads up _ ih =>
    rw [List.cons_append, follow_of_up leads up]
    exact ih isFolder
  | folder name found _ ih =>
    rw [List.cons_append, follow_folder name found]
    exact ih isFolder
  | file name found =>
    obtain ⟨inner, isInner⟩ := isFolder
    rw [found] at isInner
    cases isInner
  | @link left here part rest name target found reached _ ih =>
    rw [List.cons_append, follow_link name found, ← List.append_assoc]
    have through := ih isFolder
    cases ended : disk.follow left (if target.isAbsolute then [] else here)
        (Path.parts target.bytes ++ rest ++ more) with
    | ok last => rw [ended] at through; exact through
    | error error => rw [ended] at through; exact through

/-! ### Where a file is written -/

theorem eq_append_of_splitLast {parts before : List Name} {name : Name}
    (split : splitLast parts = (before, name, false)) (named : name ≠ []) :
    parts = before ++ [name] := by
  rw [splitLast] at split
  cases reversed : parts.reverse with
  | nil =>
    rw [reversed] at split
    exact absurd (congrArg (·.2.1) split).symm named
  | cons first rest =>
    rw [reversed] at split
    by_cases empty : first = []
    · rw [empty] at split
      cases congrArg (·.2.2) split
    · have whole : (first :: rest).dropWhile (· = []) = first :: rest := by simp [empty]
      simp only [whole] at split
      have beforeEq : rest.reverse = before := congrArg (·.1) split
      have nameEq : first = name := congrArg (·.2.1) split
      rw [← List.reverse_reverse parts, reversed, List.reverse_cons, beforeEq, nameEq]

/-- The parts are those of a way to a folder, where `links` links may be followed still, and a last
name in it. -/
structure Aims (disk : Disk) {links : Nat} (here : Location) (parts before : List Name)
    (last : Name) (arrival : Arrival links) : Prop where
  split : parts = before ++ [last]
  name : IsName last
  arrives : disk.follow links here (before ++ [[]]) = .ok arrival

/-- The last name is that of the target, or of a link to go on with. -/
theorem aims_of_target {disk : Disk} {links : Nat} {here : Location} {parts : List Name}
    {target : Location × Name} (found : disk.target links here parts = .ok target) :
    ∃ before last arrival, disk.Aims here parts before last (arrival : Arrival links) ∧
      ((target = (arrival.location, last) ∧ disk.HasRoom (arrival.location ++ [last])) ∨
        ∃ path left, disk.at? (arrival.location ++ [last]) = some (.link path) ∧
          arrival.left = left + 1 ∧
          disk.target left (if path.isAbsolute then [] else arrival.location)
            (Path.parts path.bytes) = .ok target) := by
  rw [Disk.target] at found
  rcases split : splitLast parts with ⟨before, last, trailing⟩
  rw [split] at found
  dsimp only at found
  obtain ⟨arrival, arrives, ends⟩ := exists_of_bind_eq_ok found
  split at ends
  · cases ends
  · next proper =>
    simp only [not_or, Bool.not_eq_true] at proper
    obtain ⟨notTrailing, notEmpty, notDot, notUp⟩ := proper
    subst notTrailing
    split at ends
    · cases ends
    · next short =>
      refine ⟨before, last, arrival, ⟨eq_append_of_splitLast split notEmpty,
        ⟨fun still => still.elim notEmpty notDot, notUp, short⟩, arrives⟩, ?_⟩
      split at ends
      · next free => exact .inl ⟨(Except.ok.inj ends).symm, .inl free⟩
      · next content file => exact .inl ⟨(Except.ok.inj ends).symm, .inr ⟨content, file⟩⟩
      · cases ends
      · next path link =>
        split at ends
        · cases ends
        · next left more => exact .inr ⟨path, left, link, more, ends⟩

namespace Aims

variable {disk : Disk} {links : Nat} {here : Location} {parts before : List Name} {last : Name}
  {arrival : Arrival links} (aims : disk.Aims here parts before last arrival)

include aims

theorem arrives_before : disk.Arrives links here before arrival := by
  rw [← follow_eq_ok_iff]
  rcases follow_snoc_empty disk links here before with same | ⟨fails, -⟩
  · rw [← same]
    exact aims.arrives
  · have arrives := aims.arrives
    rw [fails] at arrives
    cases arrives

theorem isFolder (start : disk.IsFolder here) : disk.IsFolder arrival.location := by
  rcases (follow_eq_ok_iff.mp aims.arrives).behind start with folder | named
  · exact folder
  · rw [List.getLast?_append_of_ne_nil _ (List.cons_ne_nil _ _)] at named
    cases named

end Aims

/-- A target is a name in a folder, and nothing but a file stands there. -/
theorem target_hasRoom {disk : Disk} {links : Nat} {here : Location} {parts : List Name}
    {target : Location × Name} (start : disk.IsFolder here)
    (found : disk.target links here parts = .ok target) :
    disk.IsFolder target.1 ∧ disk.HasRoom (target.1 ++ [target.2]) := by
  induction links using Nat.strongRecOn generalizing here parts with
  | ind links ih =>
    obtain ⟨before, last, arrival, aims, ⟨rfl, room⟩ | ⟨path, left, -, more, again⟩⟩ :=
      aims_of_target found
    · exact ⟨aims.isFolder start, room⟩
    · have less : left < links := by
        have := arrival.left_le
        omega
      refine ih left less ?_ again
      split
      · exact disk.isFolder_root
      · exact aims.isFolder start

/-- A way to the target of a file leads there, once a file is there. -/
theorem follow_target {before after : Disk} (guides : before.Guides after) {links : Nat}
    {here : Location} {parts : List Name} {target : Location × Name}
    (start : before.IsFolder here) (found : before.target links here parts = .ok target)
    {content : List UInt8} (file : after.at? (target.1 ++ [target.2]) = some (.file content)) :
    (after.follow links here parts).map Arrival.location = .ok (target.1 ++ [target.2]) := by
  induction links using Nat.strongRecOn generalizing here parts with
  | ind links ih =>
    obtain ⟨ahead, last, arrival, aims, case⟩ := aims_of_target found
    have isFolder := aims.isFolder start
    have arrives := guides.arrives aims.arrives_before isFolder
    rw [aims.split, follow_append arrives (guides.folder _ isFolder)]
    rcases case with ⟨rfl, -⟩ | ⟨path, left, link, more, again⟩
    · rw [follow_file aims.name file]
      rfl
    · obtain ⟨location, remaining, le⟩ := arrival
      subst more
      have next : before.IsFolder (if path.isAbsolute then [] else location) := by
        split
        · exact before.isFolder_root
        · exact isFolder
      have reaches := ih left (by omega) next again
      rw [follow_link aims.name (guides.link _ _ link), List.append_nil]
      cases ended : after.follow left (if path.isAbsolute then [] else location)
          (Path.parts path.bytes) with
      | ok arrival => rw [ended] at reaches; exact reaches
      | error error => rw [ended] at reaches; cases reaches

/-! ### Writing -/

/-- A disk on which relative paths can be followed. -/
def IsGrounded (disk : Disk) : Prop :=
  disk.IsFolder disk.working

theorem IsGrounded.start {disk : Disk} (grounded : disk.IsGrounded) (path : Path) :
    disk.IsFolder (disk.start path) := by
  rw [Disk.start]
  split
  · exact disk.isFolder_root
  · exact grounded

theorem write_eq_ok {disk after : Disk} {path : Path} {content : List UInt8}
    (written : disk.write path content = .ok after) :
    path.bytes.contains 0 = false ∧ path.bytes ≠ [] ∧ ¬ pathLimit ≤ path.bytes.length ∧
      ∃ target, disk.target linkLimit (disk.start path) (Path.parts path.bytes) = .ok target ∧
        after = disk.putFile target.1 target.2 content := by
  rw [write] at written
  split at written
  · cases written
  · next noNul =>
    split at written
    · cases written
    · next notEmpty =>
      split at written
      · cases written
      · next short =>
        obtain ⟨target, found, put⟩ := exists_of_bind_eq_ok written
        rw [Bool.not_eq_true] at noNul
        exact ⟨noNul, notEmpty, short, target, found, (Except.ok.inj put).symm⟩

theorem write_of_target {disk : Disk} {path : Path} (noNul : path.bytes.contains 0 = false)
    (notEmpty : path.bytes ≠ []) (short : ¬ pathLimit ≤ path.bytes.length)
    {target : Location × Name}
    (found : disk.target linkLimit (disk.start path) (Path.parts path.bytes) = .ok target)
    (content : List UInt8) :
    disk.write path content = .ok (disk.putFile target.1 target.2 content) := by
  rw [write, noNul, if_neg Bool.false_ne_true, if_neg notEmpty, if_neg short, found]
  rfl

theorem openAt_of_spelled {disk : Disk} {path : Path} (noNul : path.bytes.contains 0 = false)
    (notEmpty : path.bytes ≠ []) (short : ¬ pathLimit ≤ path.bytes.length) {location : Location}
    (follows : (disk.follow linkLimit (disk.start path) (Path.parts path.bytes)).map
      Arrival.location = .ok location) : disk.openAt path = .ok location := by
  rw [openAt, noNul, if_neg Bool.false_ne_true, if_neg short]
  exact locate_of_follow noNul notEmpty follows

/-- A write puts a file where the path leads. -/
theorem write_puts {disk after : Disk} (grounded : disk.IsGrounded) {path : Path}
    {content : List UInt8} (written : disk.write path content = .ok after) :
    ∃ location, disk.Puts after location content ∧ after.openAt path = .ok location := by
  obtain ⟨noNul, notEmpty, short, target, found, rfl⟩ := write_eq_ok written
  have start := grounded.start path
  obtain ⟨isFolder, room⟩ := target_hasRoom start found
  have puts := puts_putFile isFolder room content
  exact ⟨_, puts, openAt_of_spelled noNul notEmpty short
    (follow_target puts.guides start found puts.placed)⟩

/-- Nothing is replaced when the path led to nothing before. -/
theorem at?_eq_none_of_write {disk after : Disk} (grounded : disk.IsGrounded) {path : Path}
    {content : List UInt8} (written : disk.write path content = .ok after)
    (absent : disk.exists? path = false) {location : Location}
    (opened : after.openAt path = .ok location) : disk.at? location = none := by
  obtain ⟨noNul, notEmpty, short, target, found, rfl⟩ := write_eq_ok written
  have start := grounded.start path
  obtain ⟨isFolder, room⟩ := target_hasRoom start found
  have puts := puts_putFile isFolder room content
  have there := openAt_of_spelled noNul notEmpty short
    (follow_target puts.guides start found puts.placed)
  obtain rfl := Except.ok.inj (opened.symm.trans there)
  rcases room with free | ⟨old, file⟩
  · exact free
  · -- A file there would have been found by the same way.
    have before := openAt_of_spelled noNul notEmpty short
      (follow_target (Guides.refl disk) start found file)
    rw [exists?, entry, before] at absent
    simp only [bind, Except.bind, file] at absent
    cases absent

end Disk

end ScanMerge
