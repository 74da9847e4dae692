import Mathlib.Data.List.TakeWhile
import PredictiveScaling.Proofs.Remote.Lifecycle

/-!
# Where reports are listened for

A predictor listens at the address that it is configured with. A path goes on with a point and the
hash of the predictor's key, which makes no host and port of it, but its scheme is gone by then. So
the path that a scheme was there to protect is read a second time without it, and one that begins
with a scheme itself is taken for something else. That is the only way for a predictor to listen
anywhere but where it was told to (`RemotePredictor.keepsEndpoint_iff`).
-/
namespace PredictiveScaling

namespace Endpoint

variable {scheme address rest : String}

/-! ## Schemes -/

theorem afterScheme?_eq_some_iff : afterScheme? scheme address = some rest ↔
    address = scheme ++ rest := by
  rw [afterScheme?, ← String.toList_inj, String.toList_append]
  split
  · next is_start =>
    obtain ⟨tail, htail⟩ := List.isPrefixOf_iff_prefix.1 is_start
    rw [Option.some.injEq, ← String.toList_inj, String.toList_ofList, ← String.length_toList,
      ← htail, List.drop_left, List.append_cancel_left_eq]
  · next other =>
    refine iff_of_false nofun fun same => other (List.isPrefixOf_iff_prefix.2 ?_)
    exact ⟨_, same.symm⟩

theorem afterScheme?_eq_none_iff : afterScheme? scheme address = none ↔
    ∀ rest, address ≠ scheme ++ rest := by
  rw [Option.eq_none_iff_forall_ne_some]
  exact forall_congr' fun rest => not_congr afterScheme?_eq_some_iff

theorem parse_tcp (rest : String) : parse ("tcp://" ++ rest) = .tcp rest := by
  rw [parse, afterScheme?_eq_some_iff.2 rfl]

theorem parse_unix (rest : String) : parse ("unix://" ++ rest) = .path rest := by
  have noTcp : afterScheme? "tcp://" ("unix://" ++ rest) = none := by
    rw [afterScheme?_eq_none_iff]
    intro other same
    simpa using congrArg (fun s => s.toList.head?) same
  rw [parse, noTcp, afterScheme?_eq_some_iff.2 rfl]

/-- Neither of the two schemes stands in front. -/
def Bare (address : String) : Prop :=
  ∀ rest, address ≠ "tcp://" ++ rest ∧ address ≠ "unix://" ++ rest

theorem parse_of_bare (bare : Bare address) :
    parse address = if isHostAndPort address then .tcp address else .path address := by
  rw [parse, afterScheme?_eq_none_iff.2 fun rest => (bare rest).1,
    afterScheme?_eq_none_iff.2 fun rest => (bare rest).2]

/-- What an address can be read as. -/
theorem parse_cases (address : String) :
    (∃ rest, address = "tcp://" ++ rest) ∨ (∃ rest, address = "unix://" ++ rest) ∨
      Bare address := by
  by_cases tcp : ∃ rest, address = "tcp://" ++ rest
  · exact .inl tcp
  · by_cases unix : ∃ rest, address = "unix://" ++ rest
    · exact .inr (.inl unix)
    · exact .inr (.inr fun rest => ⟨fun h => tcp ⟨rest, h⟩, fun h => unix ⟨rest, h⟩⟩)

end Endpoint

/-! ## What is put behind a path -/

theorem length_hexDigits16 (n : UInt64) : (hexDigits16 n).length = 16 := by
  rw [hexDigits16, String.length_ofList, List.length_map, List.length_range]

/-- A path goes on with a point. -/
theorem toList_append_keySuffix (path key : String) : (path ++ keySuffix key).toList =
    path.toList ++ '.' :: (hexDigits16 (keyHash key)).toList := by
  rw [keySuffix, String.toList_append, String.toList_append]
  rfl

/-- The hexadecimal digits, in lower case. -/
def lowerHexDigits : List Char := "0123456789abcdef".toList

theorem digitChar_mem_lowerHexDigits {n : Nat} (h : n < 16) :
    n.digitChar ∈ lowerHexDigits := by
  decide +revert

theorem mem_lowerHexDigits_of_mem_hexDigits16 {n : UInt64} {d : Char}
    (h : d ∈ (hexDigits16 n).toList) : d ∈ lowerHexDigits := by
  rw [hexDigits16, String.toList_ofList, List.mem_map] at h
  obtain ⟨i, -, rfl⟩ := h
  exact digitChar_mem_lowerHexDigits (Nat.mod_lt _ (by decide))

/-- Whatever has a character that is no digit is no number. -/
theorem readNat?_eq_none {s : String} {d : Char} (mem : d ∈ s.toList) (noDigit : d.isDigit = false)
    (noPlus : d ≠ '+') (bound : Nat) : Decimal.readNat? bound s = none := by
  have digits : ∀ cs : List Char, d ∈ cs → Decimal.readDigits? cs = none := by
    intro cs hd
    have left : cs.dropWhile Char.isDigit ≠ [] := by
      intro all
      rw [List.dropWhile_eq_nil_iff] at all
      exact Bool.false_ne_true (noDigit.symm.trans (all d hd))
    rw [Decimal.readDigits?, Decimal.splitDigits]
    split
    · next h => exact absurd (Prod.mk.inj h).2 left
    · rfl
  simp only [Decimal.readNat?]
  split
  · next cs plus =>
    rw [digits cs ((List.mem_cons.1 (plus ▸ mem)).resolve_left noPlus)]
    rfl
  · rw [digits _ mem]
    rfl

namespace Endpoint

/-- Behind the last colon of a path that goes on there is no port number. -/
theorem isHostAndPort_append_keySuffix (path key : String) :
    isHostAndPort (path ++ keySuffix key) = false := by
  have noColon : ':' ∉ '.' :: (hexDigits16 (keyHash key)).toList := by
    rw [List.mem_cons, not_or]
    refine ⟨by decide, fun mem => ?_⟩
    exact absurd (mem_lowerHexDigits_of_mem_hexDigits16 mem) (by decide)
  rw [isHostAndPort, Bool.and_eq_false_iff, Text.splitLast?, toList_append_keySuffix]
  right
  by_cases colon : ':' ∈ path.toList
  · obtain ⟨back, front, hpath, last⟩ := List.eq_append_cons_of_mem (List.mem_reverse.2 colon)
    have split : path.toList ++ '.' :: (hexDigits16 (keyHash key)).toList = front.reverse ++
        ':' :: (back.reverse ++ '.' :: (hexDigits16 (keyHash key)).toList) := by
      rw [← List.reverse_reverse path.toList, hpath]
      simp only [List.reverse_append, List.reverse_cons, List.append_assoc, List.cons_append,
        List.nil_append]
    have behind : ':' ∉ back.reverse ++ '.' :: (hexDigits16 (keyHash key)).toList :=
      List.not_mem_append (mt List.mem_reverse.1 last) noColon
    rw [split, Text.splitLastChars?_append _ _ _ behind]
    have point : '.' ∈ (String.ofList
        (back.reverse ++ '.' :: (hexDigits16 (keyHash key)).toList)).toList := by
      rw [String.toList_ofList]
      exact List.mem_append_right _ List.mem_cons_self
    simp only [Option.map_some, readNat?_eq_none point (by decide) (by decide), Option.isSome_none,
      Bool.and_false]
  · rw [Text.splitLastChars?_eq_none (List.not_mem_append colon noColon)]
    rfl

/-- A scheme in front of a path that goes on is in front of the path. -/
theorem bare_append_keySuffix {path : String} (bare : Bare path) (key : String) :
    Bare (path ++ keySuffix key) := by
  have before : ∀ scheme rest : String, '.' ∉ scheme.toList →
      path ++ keySuffix key = scheme ++ rest → ∃ rest', path = scheme ++ rest' := by
    intro scheme rest noPoint same
    have chars : path.toList ++ '.' :: (hexDigits16 (keyHash key)).toList =
        scheme.toList ++ rest.toList := by
      rw [← toList_append_keySuffix, same, String.toList_append]
    rcases List.append_eq_append_iff.1 chars with ⟨t, hscheme, ht⟩ | ⟨t, hpath, -⟩
    · cases t with
      | nil => exact ⟨"", by rw [← String.toList_inj]; simpa using hscheme.symm⟩
      | cons d t =>
        obtain rfl : '.' = d := (List.cons.inj ht).1
        exact absurd (hscheme ▸ List.mem_append_right _ List.mem_cons_self) noPoint
    · exact ⟨String.ofList t, by rw [← String.toList_inj]; simpa using hpath⟩
  intro rest
  constructor
  · intro same
    obtain ⟨rest', hpath⟩ := before _ rest (by decide) same
    exact (bare rest').1 hpath
  · intro same
    obtain ⟨rest', hpath⟩ := before _ rest (by decide) same
    exact (bare rest').2 hpath

theorem parse_append_keySuffix {path : String} (bare : Bare path) (key : String) :
    parse (path ++ keySuffix key) = .path (path ++ keySuffix key) := by
  rw [parse_of_bare (bare_append_keySuffix bare key), isHostAndPort_append_keySuffix]
  rfl

end Endpoint

/-! ## Where a predictor listens -/

namespace RemotePredictor

variable {p : RemotePredictor}

/-- The predictor listens where it was told to: at the TCP address that was configured, or at the
path, which goes on with a point and sixteen hexadecimal digits. -/
def KeepsEndpoint (p : RemotePredictor) : Prop :=
  match Endpoint.parse p.params.reportAddress with
  | .tcp address => p.completion = .tcp address
  | .path path => ∃ digits : String,
      digits.length = 16 ∧ (∀ d ∈ digits.toList, d ∈ lowerHexDigits) ∧
        p.completion = .path (path ++ "." ++ digits)

theorem completion_of_tcp {address : String}
    (h : Endpoint.parse p.params.reportAddress = .tcp address) : p.completion = .tcp address := by
  rw [completion, completionAddress, PredictiveScaling.completionAddress, h]
  exact h

theorem completion_of_path {path : String}
    (h : Endpoint.parse p.params.reportAddress = .path path) :
    p.completion = Endpoint.parse (path ++ keySuffix p.key) := by
  rw [completion, completionAddress, PredictiveScaling.completionAddress, h]

theorem keepsEndpoint_of_tcp {address : String}
    (h : Endpoint.parse p.params.reportAddress = .tcp address) : p.KeepsEndpoint := by
  rw [KeepsEndpoint, h]
  exact completion_of_tcp h

theorem keepsEndpoint_of_bare {path : String}
    (h : Endpoint.parse p.params.reportAddress = .path path) (bare : Endpoint.Bare path) :
    p.KeepsEndpoint := by
  rw [KeepsEndpoint, h]
  refine ⟨hexDigits16 (keyHash p.key), length_hexDigits16 _,
    fun d => mem_lowerHexDigits_of_mem_hexDigits16, ?_⟩
  rw [completion_of_path h, Endpoint.parse_append_keySuffix bare, keySuffix, String.append_assoc]

/-- A path with a scheme of its own is listened on as what that scheme says. -/
theorem completion_of_tcpPath {rest : String}
    (h : p.params.reportAddress = "unix://tcp://" ++ rest) :
    p.completion = .tcp (rest ++ keySuffix p.key) := by
  have path : Endpoint.parse p.params.reportAddress = .path ("tcp://" ++ rest) := by
    rw [h]
    exact Endpoint.parse_unix ("tcp://" ++ rest)
  rw [completion_of_path path, String.append_assoc, Endpoint.parse_tcp]

theorem completion_of_unixPath {rest : String}
    (h : p.params.reportAddress = "unix://unix://" ++ rest) :
    p.completion = .path (rest ++ keySuffix p.key) := by
  have path : Endpoint.parse p.params.reportAddress = .path ("unix://" ++ rest) := by
    rw [h]
    exact Endpoint.parse_unix ("unix://" ++ rest)
  rw [completion_of_path path, String.append_assoc, Endpoint.parse_unix]

/-- A predictor listens where it was told to, unless the path that it was told has a scheme of its
own behind `unix://`. The last scheme is the one that counts then: the predictor listens at a TCP
address, or at a path without that scheme. -/
theorem keepsEndpoint_iff (p : RemotePredictor) :
    (p.KeepsEndpoint ↔ ∀ rest, p.params.reportAddress ≠ "unix://tcp://" ++ rest ∧
      p.params.reportAddress ≠ "unix://unix://" ++ rest) ∧
    (∀ rest, p.params.reportAddress = "unix://tcp://" ++ rest →
      p.completion = .tcp (rest ++ keySuffix p.key)) ∧
    ∀ rest, p.params.reportAddress = "unix://unix://" ++ rest →
      p.completion = .path (rest ++ keySuffix p.key) := by
  refine ⟨⟨fun keeps rest => ⟨fun h => ?_, fun h => ?_⟩, fun single => ?_⟩,
    fun rest => completion_of_tcpPath, fun rest => completion_of_unixPath⟩
  · have path : Endpoint.parse p.params.reportAddress = .path ("tcp://" ++ rest) := by
      rw [h]
      exact Endpoint.parse_unix ("tcp://" ++ rest)
    rw [KeepsEndpoint, path] at keeps
    obtain ⟨digits, -, -, listens⟩ := keeps
    exact absurd (listens.symm.trans (completion_of_tcpPath h)) nofun
  · have path : Endpoint.parse p.params.reportAddress = .path ("unix://" ++ rest) := by
      rw [h]
      exact Endpoint.parse_unix ("unix://" ++ rest)
    rw [KeepsEndpoint, path] at keeps
    obtain ⟨digits, long, -, listens⟩ := keeps
    have same := Endpoint.path.inj (listens.symm.trans (completion_of_unixPath h))
    -- one of the two is longer by a scheme
    have lengths := congrArg String.length same
    simp only [keySuffix, String.length_append, long, length_hexDigits16] at lengths
    have scheme : "unix://".length = 7 := rfl
    omega
  · rcases Endpoint.parse_cases p.params.reportAddress with ⟨rest, h⟩ | ⟨path, h⟩ | bare
    · exact keepsEndpoint_of_tcp (h ▸ Endpoint.parse_tcp rest)
    · refine keepsEndpoint_of_bare (h ▸ Endpoint.parse_unix path) fun rest => ⟨?_, ?_⟩
      · rintro rfl
        exact (single rest).1 (h.trans String.append_assoc.symm)
      · rintro rfl
        exact (single rest).2 (h.trans String.append_assoc.symm)
    · have parsed := Endpoint.parse_of_bare bare
      split at parsed
      · exact keepsEndpoint_of_tcp parsed
      · exact keepsEndpoint_of_bare parsed bare

/-- A path that looks like a TCP address once its scheme is gone, and one that does not. -/
theorem keepsEndpoint_iff_tcpPath :
    let served := fun reportAddress : String =>
      untrained "cpu$$q$remote" { oneSampleParams with reportAddress }
    (served "unix:///tmp/rra.socket").KeepsEndpoint ∧
      ¬ (served "unix://tcp://model:9000").KeepsEndpoint ∧
      (served "unix://tcp://model:9000").completion =
        .tcp ("model:9000" ++ keySuffix "cpu$$q$remote") := by
  intro served
  refine ⟨(keepsEndpoint_iff (served "unix:///tmp/rra.socket")).1.2 fun rest => ⟨?_, ?_⟩,
    fun keeps => ?_, (keepsEndpoint_iff (served "unix://tcp://model:9000")).2.1 "model:9000" rfl⟩
  · intro h
    simpa [served, untrained] using congrArg String.toList h
  · intro h
    simpa [served, untrained] using congrArg String.toList h
  · exact ((keepsEndpoint_iff (served "unix://tcp://model:9000")).1.1 keeps "model:9000").1 rfl

end RemotePredictor

end PredictiveScaling
