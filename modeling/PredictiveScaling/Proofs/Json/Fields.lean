import PredictiveScaling.Json.Record
import Mathlib.Data.List.Forall2
import Mathlib.Data.List.Nodup

/-!
# Fields of written records

A record is written as an object or as an array (`Json.WritesRecord`). Which it is, in which order
the members of an object stand and what else is in it makes no difference to its readers: they take
a record in if and only if it is well written, and find of each field what is written of it
(`Json.writesRecord_iff`).
-/
namespace PredictiveScaling.Json

variable {α : Type}

/-! ## Records -/

/-- A tree is a record with these fields, and writes of each of them at most one value. -/
inductive WritesRecord (names : List String) (field : String → Option Json) : Json → Prop
  /-- Members in any order: all names are texts, no field is named twice. -/
  | object {members : List (Option String × Json)}
      (named : ∀ m ∈ members, m.1.isSome)
      (once : ∀ name ∈ names, (members.map Prod.fst).count (some name) ≤ 1)
      (field_eq : ∀ name ∈ names, ∀ j, field name = some j ↔ (some name, j) ∈ members) :
      WritesRecord names field (.object members)
  /-- Values in the order of the fields; the last ones may be missing. -/
  | array {elements : List Json}
      (short : elements.length ≤ names.length)
      (field_eq : ∀ i (h : i < names.length), field names[i] = elements[i]?) :
      WritesRecord names field (.array elements)

theorem namedMembers?_cons (m : Option String × Json) (members : List (Option String × Json)) :
    namedMembers? (m :: members) = m.1.bind fun name =>
      (namedMembers? members).map fun named => (name, m.2) :: named := by
  obtain ⟨name, j⟩ := m
  rw [namedMembers?, List.mapM_cons]
  cases name with
  | none => rfl
  | some name =>
    change (namedMembers? members).bind _ = _
    cases namedMembers? members <;> rfl

/-- Members have names if these are all texts. -/
theorem namedMembers?_eq_some_iff {members : List (Option String × Json)}
    {named : List (String × Json)} : namedMembers? members = some named ↔
      members = named.map fun m => (some m.1, m.2) := by
  induction members generalizing named with
  | nil => cases named <;> simp [namedMembers?]
  | cons m members ih =>
    obtain ⟨name, j⟩ := m
    rw [namedMembers?_cons, Option.bind_eq_some_iff]
    constructor
    · rintro ⟨n, rfl, h⟩
      obtain ⟨rest, hrest, rfl⟩ := Option.map_eq_some_iff.1 h
      rw [List.map_cons, ih.1 hrest]
    · intro h
      cases named with
      | nil => cases h
      | cons n rest =>
        obtain ⟨hhead, hrest⟩ := List.cons.inj h
        cases hhead
        exact ⟨n.1, rfl, Option.map_eq_some_iff.2 ⟨rest, ih.2 hrest, rfl⟩⟩

theorem exists_namedMembers? {members : List (Option String × Json)}
    (named : ∀ m ∈ members, m.1.isSome) : ∃ ms, namedMembers? members = some ms := by
  induction members with
  | nil => exact ⟨[], rfl⟩
  | cons m members ih =>
    obtain ⟨hm, hms⟩ := List.forall_mem_cons.1 named
    obtain ⟨name, hname⟩ := Option.isSome_iff_exists.1 hm
    obtain ⟨ms, hread⟩ := ih hms
    exact ⟨_, by rw [namedMembers?_cons, hname, hread]; rfl⟩

/-- What is found under a name that stands for one value. -/
theorem lookup_eq_some_iff_mem {fields : List (String × Json)}
    (distinct : (fields.map Prod.fst).Nodup) {name : String} {j : Json} :
    fields.lookup name = some j ↔ (name, j) ∈ fields := by
  induction fields with
  | nil => simp
  | cons f fields ih =>
    obtain ⟨n, x⟩ := f
    rw [List.map_cons, List.nodup_cons] at distinct
    by_cases hname : name = n
    · subst hname
      have hother : (name, j) ∉ fields := fun h => distinct.1 (List.mem_map.2 ⟨_, h, rfl⟩)
      rw [List.lookup_cons_self, List.mem_cons]
      simp [hother, eq_comm]
    · have hbeq : (name == n) = false := beq_eq_false_iff_ne.2 hname
      rw [List.lookup_cons, hbeq, ih distinct.2, List.mem_cons]
      simp [hname]

/-- Values in the order of their names. -/
theorem lookup_zip {names : List String} (distinct : names.Nodup) (xs : List Json) (i : Nat)
    (h : i < names.length) : (names.zip xs).lookup names[i] = xs[i]? := by
  induction names generalizing xs i with
  | nil => cases h
  | cons name names ih =>
    obtain ⟨hname, hnames⟩ := List.nodup_cons.1 distinct
    cases xs with
    | nil => rfl
    | cons x xs =>
      cases i with
      | zero => exact List.lookup_cons_self
      | succ i =>
        have hi : i < names.length := Nat.lt_of_succ_lt_succ h
        have hbeq : (names[i] == name) = false := by
          rw [beq_eq_false_iff_ne]
          rintro rfl
          exact hname (List.getElem_mem hi)
        rw [List.zip_cons_cons, List.getElem_cons_succ, List.lookup_cons, hbeq]
        exact ih hnames xs i hi

/-- No known name is repeated if each is there at most once. -/
theorem nodup_filter_iff {names : List String} {named : List (String × Json)} :
    ((named.filter fun m => m.1 ∈ names).map Prod.fst).Nodup ↔
      ∀ name ∈ names, (named.map Prod.fst).count name ≤ 1 := by
  have hmap : (named.filter fun m => m.1 ∈ names).map Prod.fst =
      (named.map Prod.fst).filter fun name => name ∈ names := by
    rw [List.filter_map]
    rfl
  have hcount : ∀ name ∈ names, ((named.map Prod.fst).filter fun name => name ∈ names).count name =
      (named.map Prod.fst).count name :=
    fun name hname => List.count_filter (by simpa using hname)
  rw [hmap, List.nodup_iff_count_le_one]
  constructor
  · intro h name hname
    rw [← hcount name hname]
    exact h name
  · intro h name
    by_cases hname : name ∈ names
    · rw [hcount name hname]
      exact h name hname
    · have hmem : name ∉ (named.map Prod.fst).filter fun name => name ∈ names := by
        simp [hname]
      rw [List.count_eq_zero_of_not_mem hmem]
      exact Nat.zero_le 1

theorem count_some (named : List (String × Json)) (name : String) :
    ((named.map fun m => (some m.1, m.2)).map Prod.fst).count (some name) =
      (named.map Prod.fst).count name := by
  induction named with
  | nil => rfl
  | cons m named ih =>
    simp only [List.map_cons, List.count_cons, ih]
    simp

theorem some_mem_iff {named : List (String × Json)} {name : String} {j : Json} :
    (some name, j) ∈ named.map (fun m => (some m.1, m.2)) ↔ (name, j) ∈ named := by
  simp

/-- The readers of a record take it in if and only if it is well written, and find what is written
of its fields. -/
theorem writesRecord_iff {names : List String} (distinct : names.Nodup)
    {field : String → Option Json} {j : Json} : WritesRecord names field j ↔
      ∃ r, record? names j = some r ∧ ∀ name ∈ names, r.find? name = field name := by
  -- what is found of the members that are kept is what is written of known names
  have find : ∀ {named : List (String × Json)},
      ((named.filter fun m => m.1 ∈ names).map Prod.fst).Nodup → ∀ name ∈ names, ∀ j,
        (named.filter fun m => m.1 ∈ names).lookup name = some j ↔ (name, j) ∈ named := by
    intro named hnodup name hname j
    rw [lookup_eq_some_iff_mem hnodup, List.mem_filter]
    exact and_iff_left (decide_eq_true hname)
  constructor
  · intro h
    cases h with
    | @object members named once field_eq =>
      obtain ⟨ms, hms⟩ := exists_namedMembers? named
      obtain rfl := namedMembers?_eq_some_iff.1 hms
      simp only [count_some, some_mem_iff] at once field_eq
      have hnodup := nodup_filter_iff.2 once
      refine ⟨⟨false, ms.filter fun m => m.1 ∈ names⟩, ?_, fun name hname => Option.ext fun j => ?_⟩
      · rw [record?, hms, Option.bind_eq_bind, Option.bind_some, if_pos hnodup]
      · rw [field_eq name hname]
        exact find hnodup name hname j
    | @array elements short field_eq =>
      refine ⟨⟨true, names.zip elements⟩, if_pos short, fun name hname => ?_⟩
      obtain ⟨i, hi, rfl⟩ := List.getElem_of_mem hname
      rw [field_eq i hi]
      exact lookup_zip distinct elements i hi
  · rintro ⟨r, hr, hfind⟩
    cases j with
    | object members =>
      obtain ⟨named, hnamed, h⟩ := Option.bind_eq_some_iff.1 hr
      obtain rfl := namedMembers?_eq_some_iff.1 hnamed
      obtain ⟨hnodup, hkept⟩ := Option.ite_none_right_eq_some.1 h
      cases hkept
      refine .object (List.forall_mem_map.2 fun _ _ => rfl) (fun name hname => ?_)
        fun name hname j => ?_
      · rw [count_some]
        exact nodup_filter_iff.1 hnodup name hname
      · rw [← hfind name hname, some_mem_iff]
        exact find hnodup name hname j
    | array elements =>
      obtain ⟨short, h⟩ := Option.ite_none_right_eq_some.1 hr
      cases h
      refine .array short fun i hi => ?_
      rw [← hfind _ (List.getElem_mem hi)]
      exact lookup_zip distinct elements i hi
    | null => cases hr
    | bool b => cases hr
    | number n => cases hr
    | string t => cases hr

/-! ## Readers -/

theorem bool?_eq_some_iff {j : Json} {b : Bool} : bool? j = some b ↔ j = .bool b := by
  cases j <;> simp [bool?]

theorem string?_eq_some_iff {j : Json} {s : String} :
    string? j = some s ↔ j = .string (some s) := by
  cases j <;> simp [string?]

theorem float?_eq_some_iff {j : Json} {x : Float} :
    float? j = some x ↔ ∃ n v, j = .number n ∧ n.value? = some v ∧ v.toFloat = x := by
  cases j <;> simp [float?]

/-- A list is read of an array, element by element. -/
theorem list?_eq_some_iff {read : Json → Option α} {j : Json} {xs : List α} :
    list? read j = some xs ↔
      ∃ js, j = .array js ∧ List.Forall₂ (fun j x => read j = some x) js xs := by
  have elements : ∀ js : List Json,
      js.mapM read = some xs ↔ List.Forall₂ (fun j x => read j = some x) js xs := by
    intro js
    induction js generalizing xs with
    | nil => cases xs <;> simp
    | cons j js ih =>
      rw [List.mapM_cons, Option.bind_eq_bind, Option.bind_eq_some_iff, List.forall₂_cons_left_iff]
      constructor
      · rintro ⟨x, hx, h⟩
        obtain ⟨rest, hrest, heq⟩ := Option.bind_eq_some_iff.1 h
        exact ⟨x, rest, hx, ih.1 hrest, (Option.some.inj heq).symm⟩
      · rintro ⟨x, rest, hx, hrest, rfl⟩
        exact ⟨x, hx, Option.bind_eq_some_iff.2 ⟨rest, ih.2 hrest, rfl⟩⟩
  cases j <;> simp [list?, elements]

/-- A field that is left out, or written as `null`. -/
def Unset (x : Option Json) : Prop := x = none ∨ x = some .null

namespace Record

variable {r : Record} {name : String} {read : Json → Option α} {a : α}

/-- A field that may be unset has no value if and only if it is. -/
theorem withDefault?_eq_some_none :
    r.withDefault? name none (nullable? read) = some none ↔ Unset (r.find? name) := by
  rw [withDefault?, Unset]
  cases r.find? name with
  | none => simp
  | some j => cases j <;> simp [nullable?]

/-- Its value is what is read of it. -/
theorem withDefault?_eq_some_some (strict : read .null = none) :
    r.withDefault? name none (nullable? read) = some (some a) ↔
      ∃ j, r.find? name = some j ∧ read j = some a := by
  rw [withDefault?]
  cases r.find? name with
  | none => simp
  | some j => cases j <;> simp [nullable?, strict]

/-- A field that stands for some value if it is unset. -/
theorem withDefault?_orDefault?_eq_some_iff (strict : read .null = none) {default : α} :
    r.withDefault? name default (orDefault? default read) = some a ↔
      (∃ j, r.find? name = some j ∧ read j = some a) ∨
        Unset (r.find? name) ∧ a = default := by
  have hnull : r.withDefault? name default (orDefault? default read) =
      (r.withDefault? name none (nullable? read)).map (·.getD default) := by
    rw [withDefault?, withDefault?]
    cases r.find? name <;> rfl
  rw [hnull, Option.map_eq_some_iff]
  constructor
  · rintro ⟨o, ho, rfl⟩
    cases o with
    | none => exact .inr ⟨withDefault?_eq_some_none.1 ho, rfl⟩
    | some a => exact .inl ((withDefault?_eq_some_some strict).1 ho)
  · rintro (hread | ⟨unset, rfl⟩)
    · exact ⟨some a, (withDefault?_eq_some_some strict).2 hread, rfl⟩
    · exact ⟨none, withDefault?_eq_some_none.2 unset, rfl⟩

end Record

end PredictiveScaling.Json
