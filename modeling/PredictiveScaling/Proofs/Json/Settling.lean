import PredictiveScaling.Proofs.Json.Range
import PredictiveScaling.Proofs.Json.Fields
import PredictiveScaling.Proofs.Remote.Framing

/-!
# Readers that settle

A reader takes in more than its writer writes. It settles if it reads of any tree what it reads
again of the document that this is written as (`Json.Settles`). Readers of fields settle as readers
of their values do, also where fields may be missing or `null`, and a reader that settles makes one
pass over a text only: what is written of its result is read as the result (`Json.Settles.stable`).
-/
namespace PredictiveScaling.Json

variable {α : Type} {read : Json → Option α} {write : α → Document} {a : α}

/-- Something is read of a document as it was, up to how its doubles are read, and these have a
written form at all. -/
structure Kept (read : Json → Option α) (d : Document) (a : α) : Prop where
  finite : ∀ x ∈ d.floats, Decimal.isFinite x = true
  read_tree : (∀ x ∈ d.floats, ReadsBack x) → read d.tree = some a

/-- What is read of a tree is kept in the document it is written as. -/
def Settles (read : Json → Option α) (write : α → Document) : Prop :=
  ∀ ⦃j a⦄, read j = some a → Kept read (write a) a

/-- Writing what was read of a text and reading that gives it again, if the finite doubles in it are
read as they were written. -/
def Stable (read : Json → Option α) (write : α → Document) : Prop :=
  ∀ bs a, (parse? bs).bind read = some a →
    (∀ x ∈ (write a).floats, Decimal.isFinite x = true → ReadsBack x) →
      (parse? (write a).render.toUTF8.toList).bind read = some a

theorem Settles.stable (settles : Settles read write) : Stable read write := by
  intro bs a h legible
  obtain ⟨j, -, hread⟩ := Option.bind_eq_some_iff.1 h
  have kept := settles hread
  have hlegible : ∀ x ∈ (write a).floats, ReadsBack x :=
    fun x hx => legible x hx (kept.finite x hx)
  have hparse := Document.parse?_chars (write a) hlegible (List.forall_mem_nil _)
  rw [List.append_nil] at hparse
  rw [Document.render, toList_toUTF8, String.toList_ofList, hparse]
  exact kept.read_tree hlegible

/-- What a text is read as is written as a text that is read as the same. -/
def Rewrites (read : Json → Option α) (write : α → Document) (bs : List UInt8) : Prop :=
  ∃ a, (parse? bs).bind read = some a ∧
    (parse? (write a).render.toUTF8.toList).bind read = some a

/-- A text whose doubles are read as they are written. -/
theorem Stable.rewrites (stable : Stable read write) {bs : List UInt8}
    (h : ((parse? bs).bind read).any fun a => ∀ x ∈ (write a).floats, ReadsBack x) :
    Rewrites read write bs := by
  obtain ⟨hsome, hget⟩ := (Option.any_eq_true_iff_get _ _).1 h
  have hread := (Option.some_get hsome).symm
  have hlegible := of_decide_eq_true hget
  exact ⟨_, hread, stable bs _ hread fun x hx _ => hlegible x hx⟩

/-- A document without doubles. -/
theorem Kept.of_read_tree {d : Document} (floats : d.floats = []) (h : read d.tree = some a) :
    Kept read d a :=
  ⟨by simp [floats], fun _ => h⟩

/-! ## Values -/

theorem settles_string : Settles string? .string := fun _ s _ => .of_read_tree rfl (string?_tree s)

theorem bool?_tree (b : Bool) : bool? (Document.bool b).tree = some b := rfl

theorem settles_bool : Settles bool? .bool := fun _ b _ => .of_read_tree rfl (bool?_tree b)

theorem int32?_tree (n : Int32) : int32? (Document.int n.toInt).tree = some n := by
  have hbounds := And.intro n.minValue_le_toInt n.toInt_le
  have hmin : Int32.minValue.toInt = -2147483648 := rfl
  have hmax : Int32.maxValue.toInt = 2147483647 := rfl
  have hbit : Decimal.twoTo 63 = 9223372036854775808 := rfl
  have hword : maxSignificand = 18446744073709551615 := rfl
  have hint : (intNumeral n.toInt).value?.bind Number.toInt? = some n.toInt :=
    toInt?_intNumeral (by omega) (by omega)
  rw [int32?, Document.tree, int?, hint, Option.filter_some, if_pos (by simpa using hbounds)]
  simp

theorem le_of_int? {lo hi i : Int} {j : Json} (h : int? lo hi j = some i) : lo ≤ i ∧ i ≤ hi := by
  cases j with
  | number n => simpa using (Option.filter_eq_some_iff.1 h).2
  | null => cases h
  | bool b => cases h
  | string t => cases h
  | array xs => cases h
  | object ms => cases h

/-- Whole seconds that fit a word are written without loss. -/
theorem settles_duration : Settles Duration.ofJson? Duration.toDocument := by
  intro j d h
  obtain ⟨n, hn, rfl⟩ := Option.map_eq_some_iff.1 h
  refine .of_read_tree rfl ?_
  obtain ⟨i, hi, rfl⟩ := Option.map_eq_some_iff.1 hn
  have hfits := le_of_int? hi
  have hnat : (i.toNat : Int) = i := Int.toNat_of_nonneg hfits.1
  have hint : (intNumeral (i.toNat : Nat)).value?.bind Number.toInt? = some i := by
    rw [value?_intNumeral (Int.ofNat_le.1 (hnat.symm ▸ hfits.2))]
    exact congrArg some hnat
  rw [Duration.toDocument, Duration.secs_ofSecs, Duration.ofJson?, size?, nat?, Document.ofNat,
    Document.tree, int?, hint, Option.filter_some, if_pos (by simpa using hfits)]
  rfl

theorem settles_float : Settles float? .float := by
  intro j x h
  refine ⟨List.forall_mem_singleton.2 (isFinite_of_float? h), fun legible => ?_⟩
  exact float?_tree (legible x (List.mem_singleton_self x))

/-- What is read of an array is read of its elements. -/
theorem exists_of_mem_list? {j : Json} {xs : List α} (h : list? read j = some xs) :
    ∀ x ∈ xs, ∃ j, read j = some x := by
  obtain ⟨js, -, hread⟩ := list?_eq_some_iff.1 h
  clear h
  induction hread with
  | nil => exact List.forall_mem_nil _
  | cons hx _ ih => exact List.forall_mem_cons.2 ⟨⟨_, hx⟩, ih⟩

theorem settles_floats : Settles (list? float?) fun xs => .array (xs.map .float) := by
  intro j xs h
  have hfloats : (Document.array (xs.map .float)).floats = xs := elementFloats_map_float xs
  refine ⟨?_, fun legible => list?_float?_tree (hfloats ▸ legible)⟩
  rw [hfloats]
  intro x hx
  obtain ⟨j, hread⟩ := exists_of_mem_list? h x hx
  exact isFinite_of_float? hread

/-! ## Missing values -/

theorem kept_null : Kept (nullable? read) .null none := .of_read_tree rfl rfl

/-- A value is read as one where `null` is allowed, unless `null` stands for it. -/
theorem Kept.nullable (strict : read .null = none) {d : Document} (kept : Kept read d a) :
    Kept (nullable? read) d (some a) := by
  refine ⟨kept.finite, fun legible => ?_⟩
  have hread := kept.read_tree legible
  cases htree : d.tree with
  | null =>
    rw [htree, strict] at hread
    cases hread
  | _ =>
    rw [htree] at hread
    exact congrArg (Option.map some) hread

theorem Settles.nullable (settles : Settles read write) (strict : read .null = none) :
    Settles (nullable? read) (Document.ofOption write) := by
  intro j o h
  cases o with
  | none => exact kept_null
  | some a =>
    have hread : read j = some a := by
      cases j with
      | null => cases h
      | _ =>
        obtain ⟨a', hread, heq⟩ := Option.map_eq_some_iff.1 h
        exact Option.some.inj heq ▸ hread
    exact (settles hread).nullable strict

/-- A value that stands for `null` is written as itself. -/
theorem Settles.orDefault (settles : Settles read write) (strict : read .null = none)
    {default : α} (kept : Kept read (write default) default) :
    Settles (orDefault? default read) write := by
  intro j a h
  obtain ⟨o, ho, rfl⟩ := Option.map_eq_some_iff.1 h
  have hkept : Kept (nullable? read) (write (o.getD default)) (some (o.getD default)) := by
    cases o with
    | none => exact kept.nullable strict
    | some a => exact settles.nullable strict ho
  refine ⟨hkept.finite, fun legible => ?_⟩
  rw [orDefault?, hkept.read_tree legible]
  rfl

/-! ## Fields -/

theorem Settles.required (settles : Settles read write) {r : Record} {name : String}
    (h : r.required? name read = some a) : Kept read (write a) a := by
  obtain ⟨j, -, hread⟩ := Option.bind_eq_some_iff.1 h
  exact settles hread

theorem Settles.withDefault (settles : Settles read write) {default : α}
    (kept : Kept read (write default) default) {r : Record} {name : String}
    (h : r.withDefault? name default read = some a) : Kept read (write a) a := by
  rw [Record.withDefault?] at h
  cases hfind : r.find? name with
  | some j =>
    rw [hfind] at h
    exact settles h
  | none =>
    rw [hfind] at h
    cases h
    exact kept

theorem forall_mem_memberFloats {p : Float → Prop} {ms : List (String × Document)} :
    (∀ x ∈ Document.memberFloats ms, p x) ↔ ∀ m ∈ ms, ∀ x ∈ m.2.floats, p x := by
  induction ms with
  | nil => simp [Document.memberFloats]
  | cons m ms ih => rw [Document.memberFloats, List.forall_mem_append, ih, List.forall_mem_cons]

/-- A record is kept if its members are. -/
theorem Kept.record {names : List String} {get : Record → Option α}
    {ms : List (String × Document)} (known : ∀ m ∈ ms, m.1 ∈ names)
    (distinct : (ms.map Prod.fst).Nodup)
    (finite : ∀ m ∈ ms, ∀ x ∈ m.2.floats, Decimal.isFinite x = true)
    (get_trees : (∀ m ∈ ms, ∀ x ∈ m.2.floats, ReadsBack x) →
      get ⟨false, ms.map fun m => (m.1, m.2.tree)⟩ = some a) :
    Kept (fun j => (record? names j).bind get) (.object ms) a := by
  refine ⟨forall_mem_memberFloats.2 finite, fun legible => ?_⟩
  rw [record?_tree known distinct, Option.bind_some]
  exact get_trees (forall_mem_memberFloats.1 legible)

end PredictiveScaling.Json
