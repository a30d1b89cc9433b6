import ScanMerge.Import.Telemetry
import ScanMerge.Proofs.CollectedSets

/-!
The leaves of telemetry documents. A table lists every leaf under the names on the way to it, joined
by dots. A way that begins with empty names is taken to begin behind them, since a key that is still
empty counts as none.
-/

set_option autoImplicit false

namespace ScanMerge

namespace Json

/-- The value stands for itself in a table: it is neither an object nor null. -/
def IsLeaf : Json → Prop
  | .object _ => False
  | .null => False
  | _ => True

/-- A value is reached from another one through members with these names. -/
inductive Reaches : Json → List String → Json → Prop
  | here (value : Json) : Reaches value [] value
  | member {members : List (String × Json)} {name : String} {value : Json} {names : List String}
      {found : Json} (listed : (name, value) ∈ members) (reaches : Reaches value names found) :
      Reaches (.object members) (name :: names) found

theorem reaches_of_isLeaf {value : Json} (isLeaf : value.IsLeaf) {names : List String}
    {found : Json} : value.Reaches names found ↔ names = [] ∧ found = value := by
  constructor
  · intro reaches
    cases reaches with
    | here => exact ⟨rfl, rfl⟩
    | member => exact isLeaf.elim
  · rintro ⟨rfl, rfl⟩
    exact .here found

theorem reaches_string {text : String} {names : List String} {found : Json} :
    (Json.string text).Reaches names found ↔ names = [] ∧ found = .string text :=
  @reaches_of_isLeaf (.string text) trivial names found

theorem reaches_null {names : List String} {found : Json}
    (reaches : Json.null.Reaches names found) : found = .null := by
  cases reaches
  rfl

/-- A leaf of an object is one of a member. -/
theorem reaches_object {members : List (String × Json)} {names : List String} {found : Json}
    (isLeaf : found.IsLeaf) :
    (Json.object members).Reaches names found ↔
      ∃ name value rest, (name, value) ∈ members ∧ value.Reaches rest found ∧
        names = name :: rest := by
  constructor
  · intro reaches
    cases reaches with
    | here => exact isLeaf.elim
    | member listed reaches => exact ⟨_, _, _, listed, reaches, rfl⟩
  · rintro ⟨name, value, rest, listed, reaches, rfl⟩
    exact .member listed reaches

end Json

namespace Facts

variable {α : Type}

/-- The facts of a sequence of registrations, each with the key of its module. -/
def ofPushes (registered : List (String × α)) : Facts α :=
  registered.foldl (fun facts registration => facts.push registration.1 registration.2) .empty

theorem mem_of_ofPushes {registered : List (String × α)} {moduleKey : String} {fact : α} :
    fact ∈ (ofPushes registered).of moduleKey ↔ (moduleKey, fact) ∈ registered := by
  suffices general : ∀ facts : Facts α,
      fact ∈ (registered.foldl (fun facts registration =>
          facts.push registration.1 registration.2) facts).of moduleKey ↔
        (moduleKey, fact) ∈ registered ∨ fact ∈ facts.of moduleKey by
    simpa [ofPushes] using general .empty
  induction registered with
  | nil => simp
  | cons first rest ih =>
    intro facts
    rw [List.foldl_cons, ih, mem_of_push, List.mem_cons, or_left_comm, or_assoc, Prod.ext_iff]

end Facts

namespace TelemetryTable

/-! ### Keys -/

theorem nestedKey_empty (name : String) : nestedKey "" name = name := by
  rw [nestedKey, if_pos rfl]

/-- Names below a key that is not empty are joined to it, empty ones too. -/
theorem foldl_nestedKey {key : String} (named : key ≠ "") (names : List String) :
    names.foldl nestedKey key = ".".intercalate (key :: names) := by
  induction names generalizing key with
  | nil => simp
  | cons name rest ih =>
    have joined : nestedKey key name = key ++ "." ++ name := by rw [nestedKey, if_neg named]
    have still : key ++ "." ++ name ≠ "" := by simp
    rw [List.foldl_cons, joined, ih still, String.intercalate_cons_cons]
    cases rest with
    | nil => simp
    | cons next rest => simp only [String.intercalate_cons_cons, String.append_assoc]

/-- The key of the names on the way to a leaf; empty ones that it begins with are passed over. -/
def keyOf (names : List String) : String :=
  ".".intercalate (names.dropWhile (· = ""))

theorem foldl_nestedKey_empty (names : List String) : names.foldl nestedKey "" = keyOf names := by
  induction names with
  | nil => rfl
  | cons name rest ih =>
    rw [List.foldl_cons, nestedKey_empty, keyOf, List.dropWhile_cons]
    by_cases empty : name = ""
    · simp only [empty, decide_true, if_true]
      exact ih
    · simp only [empty, decide_false, Bool.false_eq_true, if_false]
      exact foldl_nestedKey empty rest

theorem intercalate_ne_empty {name : String} (named : name ≠ "") (names : List String) :
    ".".intercalate (name :: names) ≠ "" := by
  cases names with
  | nil => simpa using named
  | cons next rest => simp [String.intercalate_cons_cons]

/-- Names have a key when one of them is not empty. -/
theorem keyOf_ne_empty_iff {names : List String} :
    keyOf names ≠ "" ↔ ∃ name ∈ names, name ≠ "" := by
  rw [keyOf]
  induction names with
  | nil => simp
  | cons name rest ih =>
    rw [List.dropWhile_cons]
    by_cases empty : name = ""
    · simpa [empty] using ih
    · simpa [empty] using intercalate_ne_empty empty rest

/-! ### Leaves -/

theorem mem_leaf {key value : String} {pair : String × String} :
    pair ∈ leaf key value ↔ key ≠ "" ∧ pair = (key, value) := by
  rw [leaf]
  by_cases empty : key = "" <;> simp [empty]

theorem leaves_of_isLeaf (key : String) {value : Json} (isLeaf : value.IsLeaf) :
    leaves key value = leaf key (Telemetry.valueText value) := by
  cases value with
  | null | object => exact isLeaf.elim
  | bool | integer | double | string | array => rw [leaves]; rfl

/-- The pair is that of a leaf below a key. -/
def IsBelow (key : String) (value : Json) (pair : String × String) : Prop :=
  ∃ names found, value.Reaches names found ∧ found.IsLeaf ∧ names.foldl nestedKey key ≠ "" ∧
    pair = (names.foldl nestedKey key, Telemetry.valueText found)

theorem mem_leaves_of_isLeaf {key : String} {value : Json} (isLeaf : value.IsLeaf)
    {pair : String × String} : pair ∈ leaves key value ↔ IsBelow key value pair := by
  rw [leaves_of_isLeaf key isLeaf, mem_leaf]
  constructor
  · rintro ⟨named, rfl⟩
    exact ⟨[], value, .here value, isLeaf, named, rfl⟩
  · rintro ⟨names, found, reaches, -, named, rfl⟩
    obtain ⟨rfl, rfl⟩ := (Json.reaches_of_isLeaf isLeaf).mp reaches
    exact ⟨named, rfl⟩

theorem isBelow_object {key : String} {members : List (String × Json)} {pair : String × String} :
    IsBelow key (.object members) pair ↔
      ∃ member ∈ members, IsBelow (nestedKey key member.1) member.2 pair := by
  constructor
  · rintro ⟨names, found, reaches, isLeaf, named, rfl⟩
    obtain ⟨name, value, rest, listed, below, rfl⟩ := (Json.reaches_object isLeaf).mp reaches
    exact ⟨(name, value), listed, rest, found, below, isLeaf, named, rfl⟩
  · rintro ⟨⟨name, value⟩, listed, rest, found, below, isLeaf, named, rfl⟩
    exact ⟨name :: rest, found, .member listed below, isLeaf, named, rfl⟩

mutual

theorem mem_leaves_iff (key : String) (pair : String × String) :
    (value : Json) → (pair ∈ leaves key value ↔ IsBelow key value pair)
  | .object members => by
    rw [leaves, mem_memberLeaves_iff key pair members, isBelow_object]
  | .null => by
    rw [leaves]
    constructor
    · exact fun member => absurd member List.not_mem_nil
    · rintro ⟨names, found, reaches, isLeaf, -⟩
      rw [Json.reaches_null reaches] at isLeaf
      exact isLeaf.elim
  | .bool _ | .integer _ | .double _ | .string _ | .array _ => by
    refine mem_leaves_of_isLeaf ?_
    trivial

theorem mem_memberLeaves_iff (key : String) (pair : String × String) :
    (members : List (String × Json)) → (pair ∈ memberLeaves key members ↔
      ∃ member ∈ members, IsBelow (nestedKey key member.1) member.2 pair)
  | [] => by simp [memberLeaves]
  | (name, value) :: rest => by
    rw [memberLeaves, List.mem_append, mem_leaves_iff (nestedKey key name) pair value,
      mem_memberLeaves_iff key pair rest]
    simp only [List.mem_cons, or_and_right, exists_or, exists_eq_left]

end

/-! ### Documents -/

/-- A registered document has a leaf with this text at the end of these names. -/
def HasLeaf (registered : List (String × Json)) (names : List String) (value : String) : Prop :=
  ∃ moduleKey document found, (moduleKey, document) ∈ registered ∧
    document.Reaches names found ∧ found.IsLeaf ∧ Telemetry.valueText found = value

theorem lists_ofDocuments {registered : List (String × Json)} {key value : String} :
    (ofDocuments (Facts.ofPushes registered)).Lists key value ↔
      ∃ names, HasLeaf registered names value ∧ (∃ name ∈ names, name ≠ "") ∧
        keyOf names = key := by
  rw [lists_documentPairs]
  simp only [documentPairs, mem_leaves_iff, IsBelow, foldl_nestedKey_empty, keyOf_ne_empty_iff]
  constructor
  · rintro ⟨document, member, names, found, reaches, isLeaf, named, pair⟩
    obtain ⟨moduleKey, inside⟩ := Facts.mem_all.mp member
    obtain ⟨rfl, rfl⟩ := Prod.mk.inj pair
    exact ⟨names, ⟨moduleKey, document, found, Facts.mem_of_ofPushes.mp inside, reaches, isLeaf,
      rfl⟩, named, rfl⟩
  · rintro ⟨names, ⟨moduleKey, document, found, inside, reaches, isLeaf, rfl⟩, named, rfl⟩
    exact ⟨document, Facts.mem_all.mpr ⟨moduleKey, Facts.mem_of_ofPushes.mpr inside⟩, names, found,
      reaches, isLeaf, named, rfl⟩

/-- The table of registered documents lists exactly their leaves, in ascending order, each under the
names on the way to it without the empty ones at its beginning; a leaf that is reached through
empty names only is not listed. Where no way to a leaf begins with an empty name, these are the
leaves inside objects, each under all names on the way to it. -/
theorem lists_documents (registered : List (String × Json)) :
    (∀ key value, (ofDocuments (Facts.ofPushes registered)).Lists key value ↔
      ∃ names, HasLeaf registered names value ∧ (∃ name ∈ names, name ≠ "") ∧
        ".".intercalate (names.dropWhile (· = "")) = key) ∧
    ((∀ names value, ¬ HasLeaf registered ("" :: names) value) →
      ∀ key value, (ofDocuments (Facts.ofPushes registered)).Lists key value ↔
        ∃ names, HasLeaf registered names value ∧ names ≠ [] ∧ ".".intercalate names = key) ∧
    (ofDocuments (Facts.ofPushes registered)).Ascends := by
  refine ⟨fun _ _ => lists_ofDocuments, ?_, ascends_ofPairs _⟩
  intro plain key value
  rw [lists_ofDocuments]
  apply exists_congr
  intro names
  apply and_congr_right
  intro hasLeaf
  cases names with
  | nil => simp
  | cons name rest =>
    have named : name ≠ "" := by
      rintro rfl
      exact plain rest value hasLeaf
    simp [keyOf, named]

/-- A document with a member that has no name, inside another one. -/
def innerNameless : Json :=
  .object [("b", .object [("", .string "y")])]

/-- A document that has such a member on its top level. -/
def outerNameless : Json :=
  .object [("", .string "x"), ("b", .object [("", .string "y")])]

/-- Inside another member the nameless one is listed under its way; on the top level it is a leaf
that is not listed. -/
theorem lists_documents_nameless :
    (∀ names value, ¬ HasLeaf [("App", innerNameless)] ("" :: names) value) ∧
    (ofDocuments (Facts.ofPushes [("App", innerNameless)])).Lists "b." "y" ∧
    HasLeaf [("App", outerNameless)] [""] "x" ∧
    ∀ key, ¬ (ofDocuments (Facts.ofPushes [("App", outerNameless)])).Lists key "x" := by
  have plain : ∀ names value, ¬ HasLeaf [("App", innerNameless)] ("" :: names) value := by
    rintro names value ⟨moduleKey, document, found, registered, reaches, -⟩
    obtain ⟨rfl, rfl⟩ := Prod.mk.inj (List.mem_singleton.mp registered)
    cases reaches with
    | member listed => simp at listed
  refine ⟨plain, ?_, ?_, ?_⟩
  · rw [(lists_documents _).2.1 plain]
    refine ⟨["b", ""], ⟨"App", innerNameless, .string "y", List.mem_singleton_self _, ?_, trivial,
      rfl⟩, List.cons_ne_nil _ _, by decide⟩
    exact .member (List.mem_singleton_self _) (.member (List.mem_singleton_self _) (.here _))
  · exact ⟨"App", outerNameless, .string "x", List.mem_singleton_self _,
      .member List.mem_cons_self (.here _), trivial, rfl⟩
  · intro key listed
    obtain ⟨names, ⟨moduleKey, document, found, registered, reaches, isLeaf, text⟩, named, -⟩ :=
      ((lists_documents _).1 key "x").mp listed
    obtain ⟨rfl, rfl⟩ := Prod.mk.inj (List.mem_singleton.mp registered)
    cases reaches with
    | here => exact isLeaf
    | member member below =>
      rcases List.mem_cons.mp member with same | member
      · obtain ⟨rfl, rfl⟩ := Prod.mk.inj same
        obtain ⟨rfl, rfl⟩ := Json.reaches_string.mp below
        simp at named
      · obtain ⟨rfl, rfl⟩ := Prod.mk.inj (List.mem_singleton.mp member)
        cases below with
        | here => exact isLeaf
        | member member below =>
          obtain ⟨rfl, rfl⟩ := Prod.mk.inj (List.mem_singleton.mp member)
          obtain ⟨rfl, rfl⟩ := Json.reaches_string.mp below
          simp [Telemetry.valueText] at text

end TelemetryTable

end ScanMerge
