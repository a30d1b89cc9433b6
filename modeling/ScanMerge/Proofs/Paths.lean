import ScanMerge.Disk.Basic
import ScanMerge.Proofs.Outcomes

/-!
Paths by their segments: how joining adds segments, what spells a location, and the order of paths.
-/

set_option autoImplicit false

namespace ScanMerge

namespace Path

/-! ### Parts -/

theorem parts_ne_nil (bytes : List UInt8) : parts bytes ≠ [] := by
  induction bytes with
  | nil => simp [parts]
  | cons byte rest ih =>
    rw [parts]
    split
    · simp
    · split <;> simp

theorem separator_not_mem_of_parts {bytes part : List UInt8} (member : part ∈ parts bytes) :
    separator ∉ part := by
  induction bytes generalizing part with
  | nil =>
    rw [parts, List.mem_singleton] at member
    rw [member]
    exact List.not_mem_nil
  | cons byte rest ih =>
    rw [parts] at member
    split at member
    · rcases List.mem_cons.mp member with rfl | member
      · exact List.not_mem_nil
      · exact ih member
    · next different =>
      cases split : parts rest with
      | nil => exact absurd split (parts_ne_nil rest)
      | cons first others =>
        rw [split] at member
        rcases List.mem_cons.mp member with rfl | member
        · have firstIn : first ∈ parts rest := by simp [split]
          rw [List.mem_cons, not_or]
          exact ⟨Ne.symm different, ih firstIn⟩
        · exact ih (by simp [split, member])

/-- What stands before a separator-free text joins its first part. -/
theorem parts_append_of_not_mem {name tail first : List UInt8} {others : List (List UInt8)}
    (free : separator ∉ name) (split : parts tail = first :: others) :
    parts (name ++ tail) = (name ++ first) :: others := by
  induction name with
  | nil => exact split
  | cons byte rest ih =>
    rw [List.mem_cons, not_or] at free
    rw [List.cons_append, parts, if_neg (Ne.symm free.1), ih free.2]
    rfl

theorem parts_of_free {name : List UInt8} (free : separator ∉ name) : parts name = [name] := by
  have whole : parts (name ++ []) = [name ++ []] := parts_append_of_not_mem free rfl
  rwa [List.append_nil] at whole

theorem parts_append (left right : List UInt8) :
    parts (left ++ separator :: right) = parts left ++ parts right := by
  induction left with
  | nil => simp [parts]
  | cons byte rest ih =>
    rw [List.cons_append, parts, parts, ih]
    split
    · rfl
    · cases split : parts rest with
      | nil => exact absurd split (parts_ne_nil rest)
      | cons first others => rfl

/-! ### Segments -/

/-- The segments of the parts, a leading `.` and the root aside. -/
def steps (path : Path) : List Segment :=
  (parts path.bytes).filterMap Segment.ofPart?

theorem segments_of_absolute {path : Path} (absolute : path.isAbsolute = true) :
    path.segments = .root :: path.steps := by
  rw [segments, if_pos absolute, steps]

theorem steps_empty : (Path.mk []).steps = [] := by
  simp [steps, parts, Segment.ofPart?]

theorem steps_append (left right : List UInt8) :
    (Path.mk (left ++ separator :: right)).steps =
      (Path.mk left).steps ++ (Path.mk right).steps := by
  rw [steps, parts_append, List.filterMap_append]
  rfl

theorem steps_join (base : Path) {path : Path} (relative : path.isAbsolute = false) :
    (base.join path).steps = base.steps ++ path.steps := by
  obtain ⟨bytes⟩ := base
  rw [join, if_neg (by simp [relative])]
  split
  · next ends =>
    rcases ends with rfl | ends
    · rw [steps_empty]
      rfl
    · obtain ⟨before, rfl⟩ := List.getLast?_eq_some_iff.mp ends
      rw [List.append_assoc, List.singleton_append, steps_append, steps_append, steps_empty,
        List.append_nil]
  · exact steps_append bytes path.bytes

theorem isAbsolute_join (base path : Path) :
    (base.join path).isAbsolute = (path.isAbsolute || base.isAbsolute) := by
  obtain ⟨bytes⟩ := base
  rw [join]
  split
  · next absolute => simp [absolute]
  · next relative =>
    rw [Bool.not_eq_true] at relative
    rw [relative, Bool.false_or]
    cases bytes with
    | nil => simpa [isAbsolute] using relative
    | cons byte rest =>
      split
      · rfl
      · rfl

/-- Reading a relative path from an absolute base adds its steps. -/
theorem segments_join {base path : Path} (absolute : base.isAbsolute = true)
    (relative : path.isAbsolute = false) :
    (base.join path).segments = base.segments ++ path.steps := by
  have joined : (base.join path).isAbsolute = true := by
    rw [isAbsolute_join, relative, absolute]
    rfl
  rw [segments_of_absolute joined, segments_of_absolute absolute, steps_join base relative]
  rfl

/-- A separator at the end does not count. -/
theorem same_append_separator {path : Path} (absolute : path.isAbsolute = true) :
    (Path.mk (path.bytes ++ [separator])).same path = true := by
  have longer : (Path.mk (path.bytes ++ [separator])).isAbsolute = true := by
    obtain ⟨bytes⟩ := path
    cases bytes with
    | nil => cases absolute
    | cons byte rest => exact absolute
  rw [same_iff, segments_of_absolute longer, segments_of_absolute absolute, steps_append,
    steps_empty, List.append_nil]

/-! ### Order -/

/-- The bytes of a name; other segments have none. -/
def Segment.text : Segment → List UInt8
  | .name bytes => bytes
  | _ => []

theorem Segment.compare_eq : Segment.compare =
    compareLex (compareOn Segment.rank) fun left right => compareBytes left.text right.text := by
  funext left right
  cases left <;> cases right <;> rfl

theorem compareSegments_eq : compareSegments = List.compareLex Segment.compare := by
  funext left right
  induction left generalizing right with
  | nil => cases right <;> rfl
  | cons first rest ih =>
    cases right with
    | nil => rfl
    | cons other others => rw [compareSegments, List.compareLex_cons_cons, ih]

instance : Std.TransCmp compareBytes :=
  Std.TransOrd.compareOfLessAndEq_of_antisymm_of_trans_of_total_of_not_le
    List.le_antisymm List.le_trans List.le_total List.not_le

instance : Std.LawfulEqCmp compareBytes where
  compare_self := Std.ReflCmp.compare_self
  eq_of_compare equal := (compareOfLessAndEq_eq_eq List.le_refl List.not_le).mp equal

instance : Std.TransCmp fun left right : Segment => compareBytes left.text right.text where
  eq_swap := @fun left right => @Std.OrientedCmp.eq_swap _ compareBytes _ left.text right.text
  isLE_trans := @fun first second third =>
    @Std.TransCmp.isLE_trans _ compareBytes _ first.text second.text third.text

instance : Std.TransCmp Segment.compare := by
  rw [Segment.compare_eq]
  infer_instance

instance : Std.LawfulEqCmp Segment.compare where
  compare_self := Std.ReflCmp.compare_self
  eq_of_compare {left right} equal := by
    cases left <;> cases right <;> first
      | rfl
      | exact congrArg Segment.name (@Std.LawfulEqCmp.eq_of_compare _ compareBytes _ _ _ equal)
      | cases equal

instance : Std.TransCmp compareSegments := by
  rw [compareSegments_eq]
  infer_instance

instance : Std.LawfulEqCmp compareSegments := by
  rw [compareSegments_eq]
  infer_instance

theorem compare_eq_iff {left right : Path} : left.compare right = .eq ↔ left.same right = true := by
  rw [same_iff, compare]
  exact Std.LawfulEqCmp.compare_eq_iff_eq

theorem compare_trans {first second third : Path} (before : first.compare second = .lt)
    (after : second.compare third = .lt) : first.compare third = .lt :=
  @Std.TransCmp.lt_trans _ compareSegments _ _ _ _ before after

/-- Of two paths that differ one comes first. -/
theorem compare_total {left right : Path} (different : left.same right = false)
    (notBefore : left.compare right ≠ .lt) : right.compare left = .lt := by
  cases order : left.compare right with
  | lt => exact absurd order notBefore
  | eq =>
    rw [compare_eq_iff, different] at order
    cases order
  | gt => exact (@Std.OrientedCmp.gt_iff_lt _ compareSegments _ _ _).mp order

end Path

/-! ### Locations -/

/-- A name that an entry of a directory can have: it is not empty, neither `.` nor `..`, and holds
no separator. -/
structure Name.Proper (name : Name) : Prop where
  segment : Path.Segment.ofPart? name = some (.name name)
  free : Path.separator ∉ name

/-- Every name on the way is proper, as on the way to a working directory. -/
def Location.Proper (location : Location) : Prop :=
  ∀ name ∈ location, Name.Proper name

namespace Location

theorem isAbsolute_path (location : Location) : location.path.isAbsolute = true := by
  cases location with
  | nil => rfl
  | cons name rest => rfl

theorem parts_flatMap {location : Location} (proper : location.Proper) :
    Path.parts (location.flatMap fun name => Path.separator :: name) = [] :: location := by
  induction location with
  | nil => rfl
  | cons name rest ih =>
    have free := (proper name List.mem_cons_self).free
    have others := ih fun other member => proper other (List.mem_cons_of_mem _ member)
    rw [List.flatMap_cons, List.cons_append, Path.parts, if_pos rfl,
      Path.parts_append_of_not_mem free others, List.append_nil]

/-- Each name of a proper location is a step. -/
theorem filterMap_ofPart? {location : Location} (proper : location.Proper) :
    location.filterMap Path.Segment.ofPart? = location.map Path.Segment.name := by
  induction location with
  | nil => rfl
  | cons name rest ih =>
    rw [List.filterMap_cons, (proper name List.mem_cons_self).segment, List.map_cons,
      ih fun other member => proper other (List.mem_cons_of_mem _ member)]

theorem steps_path {location : Location} (proper : location.Proper) :
    location.path.steps = location.map Path.Segment.name := by
  cases location with
  | nil => simp [path, Path.steps, Path.parts, Path.Segment.ofPart?]
  | cons name rest =>
    rw [path, Path.steps, parts_flatMap proper, List.filterMap_cons]
    exact filterMap_ofPart? proper

end Location

/-- The path spells a proper location. -/
def Path.Canonical (path : Path) : Prop :=
  ∃ location : Location, location.Proper ∧ location.path = path

/-- Canonical paths have one spelling. -/
theorem Path.Canonical.eq_of_same {left right : Path} (leftCanonical : left.Canonical)
    (rightCanonical : right.Canonical) (same : left.same right = true) : left = right := by
  obtain ⟨left, leftProper, rfl⟩ := leftCanonical
  obtain ⟨right, rightProper, rfl⟩ := rightCanonical
  rw [Path.same_iff, Path.segments_of_absolute left.isAbsolute_path,
    Path.segments_of_absolute right.isAbsolute_path, Location.steps_path leftProper,
    Location.steps_path rightProper] at same
  have names := List.map_inj_right (fun _ _ => Path.Segment.name.inj) |>.mp (List.cons.inj same).2
  rw [names]

/-! ### Canonical paths -/

theorem Name.proper_of_part {part : Name} (free : Path.separator ∉ part)
    (named : ¬ (part = [] ∨ part = [Path.dot])) (notUp : part ≠ [Path.dot, Path.dot]) :
    Name.Proper part := by
  refine ⟨?_, free⟩
  rw [Path.Segment.ofPart?, if_neg named, if_neg notUp]

theorem Location.Proper.snoc {location : Location} (proper : location.Proper) {name : Name}
    (named : Name.Proper name) : Location.Proper (location ++ [name]) := by
  intro other member
  rcases List.mem_append.mp member with member | member
  · exact proper other member
  · rw [List.mem_singleton.mp member]
    exact named

namespace Disk

/-- A way along parts, with the links on it, and where it arrives. -/
inductive Arrives (disk : Disk) :
    (links : Nat) → Location → List Name → Arrival links → Prop where
  | done {links : Nat} {here : Location} :
      disk.Arrives links here [] ⟨here, links, Nat.le_refl _⟩
  | stays {links : Nat} {here : Location} {part : Name} {rest : List Name}
      {arrival : Arrival links} (stays : part = [] ∨ part = [Path.dot])
      (onward : disk.Arrives links here rest arrival) :
      disk.Arrives links here (part :: rest) arrival
  | up {links : Nat} {here : Location} {part : Name} {rest : List Name} {arrival : Arrival links}
      (leads : ¬ (part = [] ∨ part = [Path.dot])) (up : part = [Path.dot, Path.dot])
      (onward : disk.Arrives links here.dropLast rest arrival) :
      disk.Arrives links here (part :: rest) arrival
  | folder {links : Nat} {here : Location} {part : Name} {rest : List Name}
      {arrival : Arrival links} (name : IsName part) {inner : Folder}
      (found : disk.at? (here ++ [part]) = some (.folder inner))
      (onward : disk.Arrives links (here ++ [part]) rest arrival) :
      disk.Arrives links here (part :: rest) arrival
  | file {links : Nat} {here : Location} {part : Name} (name : IsName part)
      {content : List UInt8} (found : disk.at? (here ++ [part]) = some (.file content)) :
      disk.Arrives links here [part] ⟨here ++ [part], links, Nat.le_refl _⟩
  | link {left : Nat} {here : Location} {part : Name} {rest : List Name} (name : IsName part)
      {target : Path} (found : disk.at? (here ++ [part]) = some (.link target))
      {reached : Arrival left}
      (onward : disk.Arrives left (if target.isAbsolute then [] else here)
        (Path.parts target.bytes ++ rest) reached) :
      disk.Arrives (left + 1) here (part :: rest) reached.afterLink

theorem follow_eq_ok_iff {disk : Disk} {links : Nat} {here : Location} {parts : List Name}
    {arrival : Arrival links} :
    disk.follow links here parts = .ok arrival ↔ disk.Arrives links here parts arrival := by
  constructor
  · intro arrives
    induction links, here, parts using followInduction disk with
    | nil links here =>
      rw [follow_nil] at arrives
      cases arrives
      exact .done
    | stays links here part rest stays ih =>
      rw [follow_of_stays stays] at arrives
      exact .stays stays (ih arrives)
    | up links here part rest leads up ih =>
      rw [follow_of_up leads up] at arrives
      exact .up leads up (ih arrives)
    | long links here part rest leads down long =>
      rw [follow_of_long leads down long] at arrives
      cases arrives
    | missing links here part rest name missing =>
      rw [follow_missing name missing] at arrives
      cases arrives
    | folder links here part rest name inner found ih =>
      rw [follow_folder name found] at arrives
      exact .folder name found (ih arrives)
    | file links here part rest name content found =>
      rw [follow_file name found] at arrives
      split at arrives
      · next last =>
        subst last
        cases arrives
        exact .file name found
      · cases arrives
    | lastLink here part rest name target found =>
      rw [follow_lastLink name found] at arrives
      cases arrives
    | link left here part rest name target found ih =>
      rw [follow_link name found] at arrives
      obtain ⟨reached, follows, rfl⟩ := exists_of_map_eq_ok arrives
      exact .link name found (ih follows)
  · intro arrives
    induction arrives with
    | done => exact follow_nil
    | stays stays _ ih => rw [follow_of_stays stays, ih]
    | up leads up _ ih => rw [follow_of_up leads up, ih]
    | folder name found _ ih => rw [follow_folder name found, ih]
    | file name found => rw [follow_file name found, if_pos rfl]
    | link name found _ ih =>
      rw [follow_link name found, ih]
      rfl

/-- Following parts from a proper location leads to one, links included. -/
theorem Arrives.proper {disk : Disk} {links : Nat} {here : Location} {parts : List Name}
    {arrival : Arrival links} (arrives : disk.Arrives links here parts arrival)
    (proper : here.Proper) (free : ∀ part ∈ parts, Path.separator ∉ part) :
    arrival.location.Proper := by
  induction arrives with
  | done => exact proper
  | stays _ _ ih => exact ih proper fun other member => free other (List.mem_cons_of_mem _ member)
  | up _ _ _ ih =>
    refine ih ?_ fun other member => free other (List.mem_cons_of_mem _ member)
    exact fun name member => proper name (List.dropLast_subset _ member)
  | folder name _ _ ih =>
    have partFree := free _ List.mem_cons_self
    refine ih ?_ fun other member => free other (List.mem_cons_of_mem _ member)
    exact proper.snoc (Name.proper_of_part partFree name.leads name.down)
  | file name _ =>
    exact proper.snoc (Name.proper_of_part (free _ List.mem_cons_self) name.leads name.down)
  | link name _ _ ih =>
    refine ih ?_ ?_
    · split
      · exact fun name member => absurd member List.not_mem_nil
      · exact proper
    · intro other member
      rcases List.mem_append.mp member with member | member
      · exact Path.separator_not_mem_of_parts member
      · exact free other (List.mem_cons_of_mem _ member)

/-! ### Where paths lead -/

section Locate

variable {disk : Disk} {path : Path} {location : Location}

/-- A path that leads somewhere is spelled without NUL bytes, and its parts show the way. -/
theorem exists_arrival_of_locate (located : disk.locate path = .ok location) :
    path.bytes.contains 0 = false ∧ path.bytes ≠ [] ∧
      ∃ arrival, disk.follow linkLimit (disk.start path) (Path.parts path.bytes) = .ok arrival ∧
        arrival.location = location := by
  rw [locate] at located
  obtain ⟨_, spelled, located⟩ := exists_of_bind_eq_ok located
  obtain ⟨arrival, arrives, here⟩ := exists_of_bind_eq_ok located
  rw [checkSpelling] at spelled
  split at spelled
  · cases spelled
  · next noNul =>
    split at spelled
    · cases spelled
    · next named =>
      exact ⟨Bool.eq_false_iff.mpr noNul, named, arrival, arrives, Except.ok.inj here⟩

theorem locate_of_follow (noNul : path.bytes.contains 0 = false) (named : path.bytes ≠ [])
    (follows : (disk.follow linkLimit (disk.start path) (Path.parts path.bytes)).map
      Arrival.location = .ok location) : disk.locate path = .ok location := by
  rw [locate, checkSpelling, noNul, if_neg Bool.false_ne_true, if_neg named]
  exact follows

theorem locate_of_openAt (opened : disk.openAt path = .ok location) :
    disk.locate path = .ok location := by
  rw [openAt] at opened
  split at opened
  · cases opened
  · split at opened
    · cases opened
    · exact opened

theorem locate_of_entry {entry : Entry} (leads : disk.entry path = .ok entry) :
    ∃ location, disk.locate path = .ok location ∧ disk.at? location = some entry := by
  obtain ⟨location, opened, found⟩ := exists_of_bind_eq_ok leads
  refine ⟨location, locate_of_openAt opened, ?_⟩
  split at found
  · next other there => rw [there, Except.ok.inj found]
  · cases found

end Locate

theorem canonical_of_canonicalize {disk : Disk} (working : disk.working.Proper)
    {path canonical : Path} (resolved : disk.canonicalize path = .ok canonical) :
    canonical.Canonical := by
  obtain ⟨location, located, rfl⟩ := exists_of_map_eq_ok resolved
  obtain ⟨-, -, arrival, arrives, rfl⟩ := exists_arrival_of_locate located
  refine ⟨arrival.location, (follow_eq_ok_iff.mp arrives).proper ?_ ?_, rfl⟩
  · rw [start]
    split
    · exact fun name member => absurd member List.not_mem_nil
    · exact working
  · exact fun part member => Path.separator_not_mem_of_parts member

end Disk

end ScanMerge
