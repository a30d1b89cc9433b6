import ScanMerge.Json.Parser
import ScanMerge.Json.Shape
import ScanMerge.Proofs.JsonObjects
import ScanMerge.Proofs.RecordSchemas
import Mathlib.Data.List.Forall2

/-!
Records that are read from objects in normal form. Such an object has each name once, so a record is
read by looking its members up, in whatever order they were written and whatever others stand
between them.
-/

set_option autoImplicit false

namespace ScanMerge.Json

/-! ### Values in normal form -/

def IsNormal (value : Json) : Prop :=
  ∃ source, value = normal source

def IsObject (value : Json) : Prop :=
  ∃ members, value = .object members

variable {value inner : Json} {name : String}

theorem isNormal_of_parse {input : List UInt8} (parses : parse input = .ok value) :
    IsNormal value := by
  rw [parse] at parses
  cases read : readWhole (readValue nestingLimit) input with
  | error error =>
    rw [read] at parses
    cases parses
  | ok source =>
    rw [read] at parses
    exact ⟨source, (Except.ok.inj parses).symm⟩

/-- A member that is present is not null. -/
theorem present?_eq_some_iff :
    value.present? name = some inner ↔ value.get? name = some inner ∧ inner ≠ .null := by
  rw [present?]
  split
  · next isNull =>
    rw [isNull]
    constructor
    · intro given
      cases given
    · rintro ⟨same, notNull⟩
      exact absurd (Option.some.inj same).symm notNull
  · next found =>
    constructor
    · intro given
      exact ⟨given, fun isNull => found (isNull ▸ given)⟩
    · exact fun given => given.1

theorem present?_of_absent (absent : value.get? name = none) : value.present? name = none := by
  simp only [present?, absent]

theorem IsNormal.get? (isNormal : IsNormal value) (found : value.get? name = some inner) :
    IsNormal inner := by
  obtain ⟨source, rfl⟩ := isNormal
  cases source with
  | object members =>
    rw [get?_normal] at found
    obtain ⟨member, -, rfl⟩ := Option.map_eq_some_iff.mp found
    exact ⟨member, rfl⟩
  | _ => cases found

theorem IsNormal.present? (isNormal : IsNormal value) (found : value.present? name = some inner) :
    IsNormal inner :=
  isNormal.get? (present?_eq_some_iff.mp found).1

theorem IsNormal.item {items : List Json} (isNormal : IsNormal (.array items)) {item : Json}
    (mem : item ∈ items) : IsNormal item := by
  obtain ⟨source, same⟩ := isNormal
  cases source with
  | array sources =>
    rw [normal_array] at same
    cases same
    obtain ⟨source, -, rfl⟩ := List.mem_map.mp mem
    exact ⟨source, rfl⟩
  | object members =>
    rw [normal_object] at same
    cases same
  | _ => cases same

theorem sourcesOf_eq_toList {members : List (String × Json)}
    (ordered : members.Pairwise (·.1 < ·.1)) (name : String) :
    sourcesOf name members = (members.lookup name).toList := by
  induction members with
  | nil => rfl
  | cons member rest ih =>
    obtain ⟨present, source⟩ := member
    obtain ⟨below, ordered⟩ := List.pairwise_cons.mp ordered
    by_cases same : present = name
    · subst same
      rw [sourcesOf_cons_self, ih ordered, KeyMap.lookup_eq_none_of_below below,
        List.lookup_cons_self]
      rfl
    · have other : (name == present) = false := beq_eq_false_iff_ne.mpr (Ne.symm same)
      rw [sourcesOf_cons_of_ne same, ih ordered, List.lookup_cons, other]

/-- An object in normal form has one member of a name at most. -/
theorem IsNormal.sourcesOf {members : List (String × Json)} (isNormal : IsNormal (.object members))
    (name : String) :
    sourcesOf name members = ((Json.object members).get? name).toList := by
  have ordered : members.Pairwise (·.1 < ·.1) := by
    obtain ⟨source, same⟩ := isNormal
    cases source with
    | object sources =>
      rw [normal_object] at same
      cases same
      exact KeyMap.ordered _
    | array items =>
      rw [normal_array] at same
      cases same
    | _ => cases same
  rw [sourcesOf_eq_toList ordered, Json.get?, KeyMap.lookup_reverse ordered]

/-! ### Records -/

section Records

variable {α β : Type}

/-- What a record declares, member by member. Any other members are passed over. -/
abbrev RecordSchema (α : Type) : Type 1 :=
  Schema String Json α

def member (name : String) (shape : Shape β) (get : α → β) (put : α → β → α) :
    Declaration String Json α where
  name
  Value := β
  get
  put
  Takes _ source value := shape source = .ok value

/-- Each declared member is read into its place, and every other member is passed over. -/
structure MembersReadBy (schema : RecordSchema α)
    (read : α → String → Json → Except Mismatch α) : Prop where
  declared : ∀ declared ∈ schema.declarations, ∀ record source value,
    declared.Takes (declared.get record) source value →
      read record declared.name source = .ok (declared.put record value)
  others : ∀ name, (∀ declared ∈ schema.declarations, name ≠ declared.name) →
    ∀ record source, read record name source = .ok record

variable {schema : RecordSchema α} {read : α → String → Json → Except Mismatch α}

theorem MembersReadBy.foldlM (readBy : MembersReadBy schema read) {members : List (String × Json)}
    {record last : α} (spells : schema.Spells members record last) :
    members.foldlM (fun record member => read record member.1 member.2) record = .ok last := by
  induction members generalizing record with
  | nil =>
    rw [spells.eq]
    rfl
  | cons member rest ih =>
    obtain ⟨name, source⟩ := member
    obtain ⟨next, takes, others⟩ := spells.first
    have reads : read record name source = .ok next := by
      cases takes with
      | declared mem takes => exact readBy.declared _ mem record source _ takes
      | other apart _ => exact readBy.others name apart record source
    rw [List.foldlM_cons, reads]
    exact ih others

/-- A record is read from an object as its members say that are found by name. -/
theorem record_eq_ok (schema : RecordSchema α) (readBy : MembersReadBy schema read)
    (title : String) (fields : List Shape.Field) (isNormal : IsNormal value)
    (isObject : IsObject value)
    (ignores : ∀ name source, schema.Ignores name source) {last : α}
    (finds : ∀ declared ∈ schema.declarations,
      declared.Spells (value.get? declared.name).toList (declared.get schema.start)
        (declared.get last)) :
    Shape.record title fields read schema.start value = .ok last := by
  obtain ⟨members, rfl⟩ := isObject
  refine readBy.foldlM ⟨fun declared mem => ?_, fun item _ _ => ignores item.1 item.2⟩
  rw [isNormal.sourcesOf]
  exact finds declared mem

/-! ### Kinds of members -/

variable {shape : Shape β} {get : α → β} {put : α → β → α}

/-- A member that has to be there. -/
theorem member_required {source : Json} {before last : β} (found : value.get? name = some source)
    (reads : shape source = .ok last) :
    (member name shape get put).Spells (value.get? name).toList before last := by
  rw [found]
  exact .one reads

/-- A member that may be left out, or be null. -/
theorem member_optional {get : α → Option β} {put : α → Option β → α}
    {Says : Json → β → Prop} {last : Option β}
    (said : Option.Rel Says (value.present? name) last)
    (reads : ∀ source inner, value.present? name = some source → Says source inner →
      shape source = .ok inner) :
    (member name (Shape.optional shape) get put).Spells (value.get? name).toList none last := by
  cases found : value.get? name with
  | none =>
    rw [present?_of_absent found] at said
    cases said
    exact .done _
  | some source =>
    by_cases isNull : source = .null
    · subst isNull
      have absent : value.present? name = none := by simp only [present?, found]
      rw [absent] at said
      cases said
      exact .one rfl
    · have present := present?_eq_some_iff.mpr ⟨found, isNull⟩
      rw [present] at said
      cases said with
      | @some _ inner said =>
        have given : shape source = .ok inner := reads source inner present said
        refine .one ?_
        change Shape.optional shape source = .ok (some inner)
        rw [Shape.optional, given]
        · rfl
        · exact isNull

/-- What is made of a value may be put into a record at once. -/
theorem map_eq_ok_of_map {γ δ : Type} {outcome : Except Mismatch β} {make : β → γ} {made : γ}
    (given : outcome.map make = .ok made) (store : γ → δ) :
    outcome.map (fun inner => store (make inner)) = .ok (store made) := by
  cases outcome with
  | error mismatch => cases given
  | ok inner =>
    cases given
    rfl

/-- A member that is made of another value. -/
theorem member_map {γ : Type} (make : β → γ) {get : α → γ} {put : α → γ → α}
    {sources : List Json} {before last : β}
    (spells : (member name shape (id : β → β) fun _ inner => inner).Spells sources before last) :
    (member name (fun source => (shape source).map make) get put).Spells sources (make before)
      (make last) := by
  refine spells.map (member name (fun source => (shape source).map make) get put) make ?_
  intro before source after takes
  change shape source = .ok after at takes
  change (shape source).map make = .ok (make after)
  rw [takes]
  rfl

theorem rel_none {Says : Json → β → Prop} {found : Option Json} (absent : found = none) :
    Option.Rel Says found (none : Option β) := by
  rw [absent]
  exact .none

/-- A value that is not there, or an array whose items say the values. -/
def ListSays (Says : Json → β → Prop) (found : Option Json) (values : List β) : Prop :=
  (found = none ∧ values = []) ∨
    ∃ items, found = some (.array items) ∧ List.Forall₂ Says items values

/-- A member that is a list, and may be left out if it is empty. -/
theorem member_list {get : α → List β} {put : α → List β → α} {Says : Json → β → Prop}
    {values : List β} (said : ListSays Says (value.get? name) values)
    (reads : ∀ items, value.get? name = some (.array items) → ∀ item ∈ items, ∀ inner,
      Says item inner → shape item = .ok inner) :
    (member name (Shape.list shape) get put).Spells (value.get? name).toList [] values := by
  obtain ⟨absent, rfl⟩ | ⟨items, found, say⟩ := said
  · rw [absent]
    exact .done _
  · have all : items.mapM shape = .ok values := by
      replace reads := reads items found
      clear found
      induction say with
      | nil => rfl
      | @cons item inner items values said _ ih =>
        obtain ⟨readsItem, reads⟩ := List.forall_mem_cons.mp reads
        rw [List.mapM_cons, readsItem inner said, ih reads]
        rfl
    rw [found]
    exact .one all

/-- The items of a list are read as values that tell what the items say. -/
theorem ListSays.exists_read {γ : Type} {Says : Json → γ → Prop} {Tells : β → γ → Prop}
    {found : Option Json} {values : List γ} (said : ListSays Says found values)
    (reads : ∀ items, found = some (.array items) → ∀ item ∈ items, ∀ value, Says item value →
      ∃ inner, shape item = .ok inner ∧ Tells inner value) :
    ∃ inners, ListSays (fun item inner => shape item = .ok inner) found inners ∧
      List.Forall₂ Tells inners values := by
  obtain ⟨absent, rfl⟩ | ⟨items, rfl, say⟩ := said
  · exact ⟨[], .inl ⟨absent, rfl⟩, .nil⟩
  · replace reads := reads items rfl
    have all : ∃ inners, List.Forall₂ (fun item inner => shape item = .ok inner) items inners ∧
        List.Forall₂ Tells inners values := by
      induction say with
      | nil => exact ⟨[], .nil, .nil⟩
      | @cons item value items values said _ ih =>
        obtain ⟨readsItem, reads⟩ := List.forall_mem_cons.mp reads
        obtain ⟨inner, given, tells⟩ := readsItem value said
        obtain ⟨inners, areRead, tell⟩ := ih reads
        exact ⟨inner :: inners, .cons given areRead, .cons tells tell⟩
    obtain ⟨inners, areRead, tell⟩ := all
    exact ⟨inners, .inr ⟨items, rfl, areRead⟩, tell⟩

/-! ### Written members -/

theorem isObject_normal (members : List (String × Json)) : IsObject (normal (.object members)) :=
  ⟨_, normal_object members⟩

theorem get?_normal_of_lookup {members : List (String × Json)}
    (found : members.reverse.lookup name = some inner) :
    (normal (.object members)).get? name = some (normal inner) := by
  rw [get?_normal, found]
  rfl

theorem get?_normal_of_absent {members : List (String × Json)}
    (absent : members.reverse.lookup name = none) :
    (normal (.object members)).get? name = none := by
  rw [get?_normal, absent]
  rfl

section Written

variable {members : List (String × Json)} {Says : Json → β → Prop}

/-- A member that is left out when its value is absent says the value. -/
theorem rel_normal (write : β → Json) {written : Option β}
    (found : members.reverse.lookup name = written.map write)
    (say : ∀ inner, Says (normal (write inner)) inner)
    (notNull : ∀ inner, normal (write inner) ≠ .null) :
    Option.Rel Says ((normal (.object members)).present? name) written := by
  cases written with
  | none =>
    exact rel_none (present?_of_absent (get?_normal_of_absent found))
  | some inner =>
    have present : (normal (.object members)).present? name = some (normal (write inner)) :=
      present?_eq_some_iff.mpr ⟨get?_normal_of_lookup found, notNull inner⟩
    rw [present]
    exact .some (say inner)

theorem listSays_absent (absent : members.reverse.lookup name = none) :
    ListSays Says ((normal (.object members)).get? name) [] :=
  .inl ⟨get?_normal_of_absent absent, rfl⟩

/-- A member that is an array says the values that its items are written for. -/
theorem listSays_normal (write : β → Json) {values : List β}
    (found : members.reverse.lookup name = some (.array (values.map write)))
    (say : ∀ inner, Says (normal (write inner)) inner) :
    ListSays Says ((normal (.object members)).get? name) values := by
  refine .inr ⟨values.map fun inner => normal (write inner), ?_, ?_⟩
  · rw [get?_normal_of_lookup found, normal_array, List.map_map]
    rfl
  · rw [List.forall₂_map_left_iff]
    exact List.forall₂_same.mpr fun inner _ => say inner

end Written

end Records

/-! ### Simple values -/

/-- The value is a string. -/
def SaysText (source : Json) (text : String) : Prop :=
  source = .string text

/-- The value is a number of 32 bits without a sign. -/
def SaysWord (source : Json) (word : UInt32) : Prop :=
  source = natural word.toNat

theorem text_eq_ok {source : Json} {text : String} (said : SaysText source text) :
    Shape.text source = .ok text := by
  rw [said]
  rfl

theorem word_eq_ok {source : Json} {word : UInt32} (said : SaysWord source word) :
    Shape.word source = .ok word := by
  rw [said, natural, Shape.word]
  have bound : (word.toNat : Int) < UInt32.size := Int.ofNat_lt.mpr word.toNat_lt
  rw [if_pos ⟨Int.natCast_nonneg _, bound⟩, Int.toNat_natCast, UInt32.ofNat_toNat]

end ScanMerge.Json
