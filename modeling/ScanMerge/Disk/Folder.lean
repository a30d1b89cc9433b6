import ScanMerge.Path

/-!
Directory trees. The entries of a folder are listed by name, ascending, so every name occurs once.
-/

set_option autoImplicit false

namespace ScanMerge

abbrev Name : Type := List UInt8

inductive Folder where
  | empty
  | file (name : Name) (content : List UInt8) (rest : Folder)
  | link (name : Name) (target : Path) (rest : Folder)
  | folder (name : Name) (inner rest : Folder)
  deriving DecidableEq, Repr, Inhabited

/-- What stands under a name. -/
inductive Entry where
  | file (content : List UInt8)
  | link (target : Path)
  | folder (inner : Folder)
  deriving DecidableEq, Repr

namespace Folder

/-- A folder with an entry in front of its other ones. -/
def cons (name : Name) (entry : Entry) (rest : Folder) : Folder :=
  match entry with
  | .file content => .file name content rest
  | .link target => .link name target rest
  | .folder inner => .folder name inner rest

def names : Folder → List Name
  | .empty => []
  | .file name _ rest => name :: rest.names
  | .link name _ rest => name :: rest.names
  | .folder name _ rest => name :: rest.names

/-- The names ascend, in the folder and in every folder inside. -/
def Ordered : Folder → Prop
  | .empty => True
  | .file name _ rest => (∀ other ∈ rest.names, name < other) ∧ rest.Ordered
  | .link name _ rest => (∀ other ∈ rest.names, name < other) ∧ rest.Ordered
  | .folder name inner rest => (∀ other ∈ rest.names, name < other) ∧ inner.Ordered ∧ rest.Ordered

def find? (wanted : Name) : Folder → Option Entry
  | .empty => none
  | .file name content rest => if name = wanted then some (.file content) else rest.find? wanted
  | .link name target rest => if name = wanted then some (.link target) else rest.find? wanted
  | .folder name inner rest => if name = wanted then some (.folder inner) else rest.find? wanted

/-- The entry at the end of a list of names, links not being followed. -/
def at? (folder : Folder) : List Name → Option Entry
  | [] => some (.folder folder)
  | name :: rest =>
    match folder.find? name with
    | some (.folder inner) => inner.at? rest
    | some entry => if rest = [] then some entry else none
    | none => none

/-- The folder with an entry under a name, in place of any other there. -/
def put (wanted : Name) (entry : Entry) : Folder → Folder
  | .empty => cons wanted entry .empty
  | .file name content rest =>
    if wanted < name then cons wanted entry (.file name content rest)
    else if wanted = name then cons wanted entry rest
    else .file name content (rest.put wanted entry)
  | .link name target rest =>
    if wanted < name then cons wanted entry (.link name target rest)
    else if wanted = name then cons wanted entry rest
    else .link name target (rest.put wanted entry)
  | .folder name inner rest =>
    if wanted < name then cons wanted entry (.folder name inner rest)
    else if wanted = name then cons wanted entry rest
    else .folder name inner (rest.put wanted entry)

/-- The folder without the entry under a name. -/
def erase (wanted : Name) : Folder → Folder
  | .empty => .empty
  | .file name content rest =>
    if name = wanted then rest else .file name content (rest.erase wanted)
  | .link name target rest =>
    if name = wanted then rest else .link name target (rest.erase wanted)
  | .folder name inner rest =>
    if name = wanted then rest else .folder name inner (rest.erase wanted)

def change (wanted : Name) (f : Folder → Folder) : Folder → Folder
  | .empty => .empty
  | .file name content rest => .file name content (rest.change wanted f)
  | .link name target rest => .link name target (rest.change wanted f)
  | .folder name inner rest =>
    if name = wanted then .folder name (f inner) rest
    else .folder name inner (rest.change wanted f)

/-- The folder with a change to the folder at the end of a list of names. -/
def changeAt (f : Folder → Folder) : List Name → Folder → Folder
  | [], whole => f whole
  | name :: rest, whole => whole.change name (changeAt f rest)

/-! ### A folder by its entries -/

@[simp] theorem names_empty : names .empty = [] := rfl

@[simp] theorem ordered_empty : Ordered .empty := trivial

/-- Every folder is empty or has an entry in front. Only in a folder there are more entries. -/
@[elab_as_elim]
theorem consInduction {motive : Folder → Prop} (folder : Folder) (empty : motive .empty)
    (cons : ∀ name entry rest, (∀ inner, entry = .folder inner → motive inner) → motive rest →
      motive (cons name entry rest)) : motive folder := by
  induction folder with
  | empty => exact empty
  | file name content rest ih => exact cons name (.file content) rest (fun _ => nofun) ih
  | link name target rest ih => exact cons name (.link target) rest (fun _ => nofun) ih
  | folder name inner rest inside ih =>
    exact cons name (.folder inner) rest (fun _ same => Entry.folder.inj same ▸ inside) ih

section Cons

variable (name wanted : Name) (entry : Entry) (rest : Folder)

@[simp] theorem names_cons : (cons name entry rest).names = name :: rest.names := by
  cases entry <;> rfl

@[simp] theorem find?_cons :
    (cons name entry rest).find? wanted =
      if name = wanted then some entry else rest.find? wanted := by
  cases entry <;> rfl

theorem put_cons (new : Entry) :
    (cons name entry rest).put wanted new =
      if wanted < name then cons wanted new (cons name entry rest)
      else if wanted = name then cons wanted new rest
      else cons name entry (rest.put wanted new) := by
  cases entry <;> rfl

theorem erase_cons :
    (cons name entry rest).erase wanted =
      if name = wanted then rest else cons name entry (rest.erase wanted) := by
  cases entry <;> rfl

/-- A change passes on to the other entries, unless this one is the folder to be changed. -/
theorem change_cons (f : Folder → Folder) :
    (∃ inner, entry = .folder inner ∧ name = wanted ∧
      (cons name entry rest).change wanted f = cons name (.folder (f inner)) rest) ∨
    ((∀ inner, entry = .folder inner → name ≠ wanted) ∧
      (cons name entry rest).change wanted f = cons name entry (rest.change wanted f)) := by
  cases entry with
  | file | link => exact .inr ⟨fun _ => nofun, rfl⟩
  | folder inner =>
    by_cases same : name = wanted
    · exact .inl ⟨inner, rfl, same, if_pos same⟩
    · exact .inr ⟨fun _ _ => same, if_neg same⟩

end Cons

end Folder

/-- The names in a folder entry ascend. -/
def Entry.Ordered : Entry → Prop
  | .file _ => True
  | .link _ => True
  | .folder inner => inner.Ordered

namespace Folder

theorem ordered_cons {name : Name} {entry : Entry} {rest : Folder} :
    (cons name entry rest).Ordered ↔
      (∀ other ∈ rest.names, name < other) ∧ entry.Ordered ∧ rest.Ordered := by
  cases entry <;> simp [cons, Ordered, Entry.Ordered]

/-! ### Order is kept -/

theorem mem_names_put {wanted other : Name} {entry : Entry} {folder : Folder}
    (h : other ∈ (folder.put wanted entry).names) : other = wanted ∨ other ∈ folder.names := by
  induction folder using consInduction with
  | empty => simpa [put] using h
  | cons name present rest _ ih => grind [put_cons, names_cons]

theorem lt_of_not_lt {left right : Name} (notLess : ¬ left < right) (different : left ≠ right) :
    right < left :=
  Classical.byContradiction fun notGreater =>
    different (List.le_antisymm (List.not_lt.1 notGreater) (List.not_lt.1 notLess))

theorem ordered_put {wanted : Name} {entry : Entry} {folder : Folder} (inner : entry.Ordered)
    (h : folder.Ordered) : (folder.put wanted entry).Ordered := by
  induction folder using consInduction with
  | empty => exact ordered_cons.mpr ⟨by simp, inner, trivial⟩
  | cons name present rest _ ih =>
    obtain ⟨below, within, ordered⟩ := ordered_cons.mp h
    rw [put_cons]
    split
    · next less =>
      refine ordered_cons.mpr ⟨fun other member => ?_, inner, h⟩
      rw [names_cons] at member
      rcases List.mem_cons.1 member with rfl | member
      · exact less
      · exact List.lt_trans less (below _ member)
    · next notLess =>
      split
      · next same => exact ordered_cons.mpr ⟨same ▸ below, inner, ordered⟩
      · next different =>
        refine ordered_cons.mpr ⟨fun other member => ?_, within, ih ordered⟩
        rcases mem_names_put member with rfl | member
        · exact lt_of_not_lt notLess different
        · exact below _ member

theorem mem_names_erase {wanted other : Name} {folder : Folder}
    (h : other ∈ (folder.erase wanted).names) : other ∈ folder.names := by
  induction folder using consInduction with
  | empty => exact h
  | cons name entry rest _ ih => grind [erase_cons, names_cons]

theorem ordered_erase {wanted : Name} {folder : Folder} (h : folder.Ordered) :
    (folder.erase wanted).Ordered := by
  induction folder using consInduction with
  | empty => exact h
  | cons name entry rest _ ih =>
    obtain ⟨below, within, ordered⟩ := ordered_cons.mp h
    rw [erase_cons]
    split
    · exact ordered
    · exact ordered_cons.mpr ⟨fun other member => below _ (mem_names_erase member), within,
        ih ordered⟩

@[simp] theorem names_change (wanted : Name) (f : Folder → Folder) (folder : Folder) :
    (folder.change wanted f).names = folder.names := by
  induction folder using consInduction with
  | empty => rfl
  | cons name entry rest _ ih =>
    obtain ⟨inner, rfl, -, changed⟩ | ⟨-, changed⟩ := change_cons name wanted entry rest f
    · rw [changed, names_cons, names_cons]
    · rw [changed, names_cons, names_cons, ih]

theorem ordered_change {wanted : Name} {f : Folder → Folder} {folder : Folder}
    (keeps : ∀ inner : Folder, inner.Ordered → (f inner).Ordered) (h : folder.Ordered) :
    (folder.change wanted f).Ordered := by
  induction folder using consInduction with
  | empty => exact h
  | cons name entry rest _ ih =>
    obtain ⟨below, within, ordered⟩ := ordered_cons.mp h
    obtain ⟨inner, rfl, -, changed⟩ | ⟨-, changed⟩ := change_cons name wanted entry rest f
    · rw [changed]
      exact ordered_cons.mpr ⟨below, keeps inner within, ordered⟩
    · rw [changed, ordered_cons, names_change]
      exact ⟨below, within, ih ordered⟩

theorem ordered_changeAt {f : Folder → Folder}
    (keeps : ∀ inner : Folder, inner.Ordered → (f inner).Ordered) (location : List Name)
    {folder : Folder} (h : folder.Ordered) : (changeAt f location folder).Ordered := by
  induction location generalizing folder with
  | nil => exact keeps _ h
  | cons name rest ih => exact ordered_change (fun _ => ih) h

end Folder

end ScanMerge
