import PredictiveScaling.Proofs.Json.Rendering
import PredictiveScaling.Remote.Message

/-!
# Requests on lines of their own

A document is written without line feeds, so the line that it is written on ends where it says so,
and what is read of that line is the document whatever arrives behind it. Requests are taken out of
the tree of their document as they were (`Line.requests_framed`). The only thing that may be lost is
a double, which is why those of a request have to be read back.
-/
namespace PredictiveScaling

/-! ## Fields -/

namespace Json

variable {names : List String} {ms : List (String × Document)}

theorem Document.memberTrees_eq (ms : List (String × Document)) :
    Document.memberTrees ms = ms.map fun m => (some m.1, m.2.tree) := by
  induction ms with
  | nil => rfl
  | cons m ms ih => rw [Document.memberTrees, ih, List.map_cons]

theorem Document.elementTrees_eq (xs : List Document) :
    Document.elementTrees xs = xs.map Document.tree := by
  induction xs with
  | nil => rfl
  | cons x xs ih => rw [Document.elementTrees, ih, List.map_cons]

/-- The fields of a document whose members have different known names. -/
theorem record?_tree (known : ∀ m ∈ ms, m.1 ∈ names) (distinct : (ms.map Prod.fst).Nodup) :
    record? names (Document.object ms).tree =
      some ⟨false, ms.map fun m => (m.1, m.2.tree)⟩ := by
  have hnamed : namedMembers? (Document.memberTrees ms) =
      some (ms.map fun m => (m.1, m.2.tree)) := by
    rw [namedMembers?, Document.memberTrees_eq, List.mapM_map]
    exact List.mapM_pure
  have hknown : (ms.map fun m => (m.1, m.2.tree)).filter (fun m => m.1 ∈ names) =
      ms.map fun m => (m.1, m.2.tree) := by
    rw [List.filter_eq_self, List.forall_mem_map]
    exact fun m hm => decide_eq_true (known m hm)
  rw [Document.tree, record?, hnamed, Option.bind_eq_bind, Option.bind_some, hknown, if_pos]
  rwa [List.map_map]

theorem float?_tree {x : Float} (h : ReadsBack x) : float? (Document.float x).tree = some x := by
  obtain ⟨j, hj, hfloat⟩ := Option.bind_eq_some_iff.1 h
  rw [Document.tree, hj]
  exact hfloat

/-- A list of doubles that are read back is read back. -/
theorem list?_float?_tree {xs : List Float} (legible : ∀ x ∈ xs, ReadsBack x) :
    list? float? (Document.array (xs.map .float)).tree = some xs := by
  rw [Document.tree, Document.elementTrees_eq, list?, List.map_map, List.mapM_map]
  induction xs with
  | nil => rfl
  | cons x xs ih =>
    obtain ⟨hx, hxs⟩ := List.forall_mem_cons.1 legible
    rw [List.mapM_cons, ih hxs]
    exact (congrArg (Option.bind · _) (float?_tree hx)).trans rfl

theorem string?_tree (s : String) : string? (Document.string s).tree = some s := rfl

end Json

theorem word64?_tree (n : UInt64) : word64? (wordDocument n).tree = some n := by
  have hvalue := Json.value?_intNumeral (n := n.toNat) (Nat.le_pred_of_lt n.toNat_lt)
  have hint : Json.int? 0 ((UInt64.size - 1 : Nat) : Int) (wordDocument n).tree =
      some (n.toNat : Int) := by
    rw [wordDocument, Json.Document.ofNat, Json.Document.tree, Json.int?, hvalue]
    refine Option.filter_eq_some_iff.2 ⟨rfl, ?_⟩
    have hle : (n.toNat : Int) ≤ ((UInt64.size - 1 : Nat) : Int) :=
      Int.ofNat_le.2 (Nat.le_pred_of_lt n.toNat_lt)
    simpa using hle
  rw [word64?, Json.size?, Json.nat?, hint]
  simp

/-! ## Requests -/

theorem PredictRequest.ofJson?_tree (m : PredictRequest)
    (legible : ∀ x ∈ m.history, Json.ReadsBack x) :
    PredictRequest.ofJson? m.toDocument.tree = some m := by
  have hrecord : Json.record? fieldNames m.toDocument.tree = _ :=
    Json.record?_tree (by simp [fieldNames]) (by simp)
  rw [ofJson?, hrecord]
  simp only [Json.Record.required?, Json.Record.find?, List.map_cons, List.map_nil,
    List.lookup_cons, String.reduceBEq, Option.bind_eq_bind, Option.bind_some, Json.string?_tree,
    Json.list?_float?_tree legible, word64?_tree, Option.pure_def]

theorem TrainRequest.ofJson?_tree (m : TrainRequest)
    (legible : ∀ x ∈ m.history, Json.ReadsBack x) :
    TrainRequest.ofJson? m.toDocument.tree = some m := by
  have hrecord : Json.record? fieldNames m.toDocument.tree = _ :=
    Json.record?_tree (by simp [fieldNames]) (by simp)
  rw [ofJson?, hrecord]
  simp only [Json.Record.required?, Json.Record.find?, List.map_cons, List.map_nil,
    List.lookup_cons, String.reduceBEq, Option.bind_eq_bind, Option.bind_some, Json.string?_tree,
    Json.list?_float?_tree legible, word64?_tree, Option.pure_def]

theorem elementFloats_map_float (xs : List Float) :
    Json.Document.elementFloats (xs.map .float) = xs := by
  induction xs with
  | nil => rfl
  | cons x xs ih =>
    rw [List.map_cons, Json.Document.elementFloats, ih]
    rfl

/-- The doubles in a request are those of its history. -/
theorem PredictRequest.floats_toDocument (m : PredictRequest) :
    m.toDocument.floats = m.history := by
  simp [toDocument, wordDocument, Json.Document.ofNat, Json.Document.floats,
    Json.Document.memberFloats, elementFloats_map_float]

theorem TrainRequest.floats_toDocument (m : TrainRequest) : m.toDocument.floats = m.history := by
  simp [toDocument, wordDocument, Json.Document.ofNat, Json.Document.floats,
    Json.Document.memberFloats, elementFloats_map_float]

/-! ## Lines -/

namespace Line

variable {α : Type} {bs rest : List UInt8}

/-- A line: one line feed, at the end. -/
def IsLine (bs : List UInt8) : Prop := bs.count lineFeed = 1 ∧ bs.getLast? = some lineFeed

theorem isLine_append (h : lineFeed ∉ bs) : IsLine (bs ++ [lineFeed]) := by
  constructor
  · rw [List.count_append, List.count_eq_zero_of_not_mem h, List.count_singleton_self]
  · exact List.getLast?_concat

theorem first_cons (b : UInt8) (bs : List UInt8) :
    first (b :: bs) = if b = lineFeed then [b] else b :: first bs := by
  by_cases hb : b = lineFeed <;> simp [first, hb]

/-- Nothing behind the first line feed is looked at. -/
theorem first_append (h : lineFeed ∉ bs) (rest : List UInt8) :
    first (bs ++ lineFeed :: rest) = bs ++ [lineFeed] := by
  induction bs with
  | nil => exact (first_cons lineFeed rest).trans (if_pos rfl)
  | cons b bs ih =>
    obtain ⟨hb, hbs⟩ := not_or.1 (mt List.mem_cons.2 h)
    rw [List.cons_append, first_cons, if_neg (Ne.symm hb), ih hbs]
    rfl

/-- Nor is anything behind another one. -/
theorem first_append_lineFeed (bs rest : List UInt8) :
    first (bs ++ lineFeed :: rest) = first (bs ++ [lineFeed]) := by
  induction bs with
  | nil => rfl
  | cons b bs ih => rw [List.cons_append, List.cons_append, first_cons, first_cons, ih]

/-- No value is made of white space, a form feed included. -/
theorem parse?_of_blank (h : bs.all isBlankByte = true) : Json.parse? bs = none := by
  have hread : ∀ fuel, Json.readValue? fuel bs = none := by
    intro fuel
    rw [← Json.readValue?_skipBlanks]
    have hhead := List.head?_dropWhile_not Json.isBlankByte bs
    cases hskip : Json.skipBlanks bs with
    | nil => cases fuel <;> rfl
    | cons b r =>
      have hmem : b ∈ bs := (List.dropWhile_suffix _).subset (hskip ▸ List.mem_cons_self)
      have hblank := List.all_eq_true.1 h b hmem
      rw [Json.skipBlanks] at hskip
      simp only [hskip, List.head?_cons, Json.isBlankByte, Bool.or_eq_false_iff,
        beq_eq_false_iff_ne] at hhead
      simp only [isBlankByte, Bool.or_eq_true, beq_iff_eq] at hblank
      obtain rfl : b = 0x0c := by tauto
      cases fuel <;> rfl
  rw [Json.parse?, hread]

/-- A message is what its reader makes of the tree of the first line. -/
theorem read_eq_ok_iff {ofJson? : Json → Option α} {m : α} :
    read ofJson? bs = .ok m ↔ (Json.parse? (first bs)).bind ofJson? = some m := by
  simp only [read]
  split
  · next blank =>
    rw [parse?_of_blank blank]
    simp
  · split
    · next m' hm =>
      rw [hm]
      simp
    · next hm =>
      rw [hm]
      simp

theorem read_append_lineFeed (ofJson? : Json → Option α) (bs rest : List UInt8) :
    read ofJson? (bs ++ lineFeed :: rest) = read ofJson? (bs ++ [lineFeed]) := by
  simp only [read, first_append_lineFeed bs rest]

theorem write_eq (d : Json.Document) : write d = Json.encode d.chars ++ [lineFeed] := by
  rw [write, Json.Document.render, Json.toList_toUTF8, String.toList_ofList]

/-- A document is written on one line. -/
theorem isLine_write (d : Json.Document) : IsLine (write d) := by
  rw [write_eq]
  exact isLine_append (Json.Document.lineFeed_not_mem_chars d)

/-- What is read of that line is what the reader makes of the tree of the document. -/
theorem read_write {ofJson? : Json → Option α} {m : α} {d : Json.Document}
    (legible : ∀ x ∈ d.floats, Json.ReadsBack x) (h : ofJson? d.tree = some m)
    (rest : List UInt8) : read ofJson? (write d ++ rest) = .ok m := by
  have hfirst : first (write d ++ rest) = Json.encode d.chars ++ [lineFeed] := by
    rw [write_eq, List.append_assoc, List.singleton_append]
    exact first_append (Json.Document.lineFeed_not_mem_chars d) rest
  have hparse : Json.parse? (Json.encode d.chars ++ [lineFeed]) = some d.tree :=
    Json.Document.parse?_chars d legible (List.forall_mem_singleton.2 rfl)
  rw [read_eq_ok_iff, hfirst, hparse]
  exact h

/-- Requests are written on one line each, and whatever follows that line, they are read of it as
they were. -/
theorem requests_framed :
    (∀ m : PredictRequest, IsLine (write m.toDocument) ∧
      ((∀ x ∈ m.history, Json.ReadsBack x) → ∀ rest,
        read PredictRequest.ofJson? (write m.toDocument ++ rest) = .ok m)) ∧
    ∀ m : TrainRequest, IsLine (write m.toDocument) ∧
      ((∀ x ∈ m.history, Json.ReadsBack x) → ∀ rest,
        read TrainRequest.ofJson? (write m.toDocument ++ rest) = .ok m) := by
  refine ⟨fun m => ⟨isLine_write _, fun legible rest => ?_⟩,
    fun m => ⟨isLine_write _, fun legible rest => ?_⟩⟩
  · exact read_write (m.floats_toDocument ▸ legible) (m.ofJson?_tree legible) rest
  · exact read_write (m.floats_toDocument ▸ legible) (m.ofJson?_tree legible) rest

/-- Names that were written over several lines, with quotes, backslashes and control characters. -/
theorem requests_framed_multiline :
    let key := "sum(rate(hits[5m]))\n  by (\"pod\\\")\u0000\x1b"
    let forecast : PredictRequest := ⟨key, [1.5, -0.25], 2, 3⟩
    let training : TrainRequest := ⟨key, [1.5, -0.25], "unix:///tmp/a\nb\t", 2, 3, 4, 5, 6⟩
    (∀ x ∈ forecast.history, Json.ReadsBack x) ∧ (∀ x ∈ training.history, Json.ReadsBack x) ∧
      read PredictRequest.ofJson? (write forecast.toDocument ++ [0x7b, 0x0a]) = .ok forecast ∧
      read TrainRequest.ofJson? (write training.toDocument ++ [0x7b, 0x0a]) = .ok training := by
  intro key forecast training
  have legible : ∀ x ∈ [(1.5 : Float), -0.25], Json.ReadsBack x := by decide +kernel
  exact ⟨legible, legible, (requests_framed.1 forecast).2 legible _,
    (requests_framed.2 training).2 legible _⟩

end Line

end PredictiveScaling
