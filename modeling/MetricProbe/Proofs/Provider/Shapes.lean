import MetricProbe.Proofs.Datadog.Response
import MetricProbe.Proofs.Json.Scalars
import MetricProbe.Proofs.Prometheus.Response

/-!
# Answers that are no objects

An answer is an object with one member that is read, the series of Datadog or the data of
Prometheus. A body whose value has nothing inside, and one that is no document at all, cannot be
decoded.

Arrays are not refused as such: an array stands for the record whose first field is its first item.
So an array with a single item ends like the object whose only member is that item, and an empty
one is an answer of Datadog, which may leave its series out. Only arrays that are too long, or too
short for a field that is needed, cannot be decoded.
-/

namespace MetricProbe

open Datadog (Alike)
open Json

/-- A body cannot be decoded, and is quoted as it came. -/
def Undecodable (read : String → Outcome Binary64) (body : String) : Prop :=
  ∃ reason, read body = .error (.decode reason body)

/-- How a body ends is told by the slot of what is written in it. -/
structure ReadsSlot (name : String) (read : String → Outcome Binary64) : Prop where
  unwritten {body : String} (unwritten : ∀ tree, ¬ IsDocument body tree) : Undecodable read body
  unheld {body : String} {tree : Spelling} (written : IsDocument body tree)
    (unheld : ∀ content, ¬ Holds name tree content) : Undecodable read body
  alike {body other : String} {tree otherTree : Spelling} (written : IsDocument body tree)
    (writtenOther : IsDocument other otherTree)
    (same : ∀ content, Holds name tree content ↔ Holds name otherTree content) :
    Alike (read body) (read other)

namespace ReadsSlot

variable {name : String} {read : String → Outcome Binary64} {body other : String}

/-- A body cannot be decoded if nothing is written in it, or a value with nothing inside. -/
theorem undecodable_of_leaf (reads : ReadsSlot name read)
    (leaf : ∀ tree, IsDocument body tree → Leaf tree) : Undecodable read body := by
  by_cases written : ∃ tree, IsDocument body tree
  · obtain ⟨tree, written⟩ := written
    exact reads.unheld written fun content => (leaf tree written).not_holds
  · exact reads.unwritten fun tree isDocument => written ⟨tree, isDocument⟩

/-- An array with more items than one cannot be decoded. -/
theorem undecodable_of_long (reads : ReadsSlot name read) {items : List Spelling}
    (written : IsDocument body (.array items)) (long : 1 < items.length) :
    Undecodable read body := by
  refine reads.unheld written fun content holds => ?_
  rw [holds_array_iff.1 holds] at long
  cases content with
  | none => exact absurd long (Nat.not_lt_zero 1)
  | some tree => exact absurd long (Nat.lt_irrefl 1)

/-- An array with a single item ends like the object with this item as its only member. -/
theorem alike_of_singleton (reads : ReadsSlot name read) {item : Spelling} {key : List Letter}
    (named : Names name key = true) (written : IsDocument body (.array [item]))
    (writtenOther : IsDocument other (.object [(key, item)])) : Alike (read body) (read other) :=
  reads.alike written writtenOther fun _ => holds_singleton_iff named

end ReadsSlot

/-! ## Datadog -/

namespace Datadog

/-- Answers of Datadog are told by their series. -/
theorem readsSlot_readResponse : ReadsSlot "series" readResponse where
  unwritten unwritten := by
    refine readResponse_of_not_decodes ?_
    rintro response ⟨tree, written, _⟩
    exact unwritten tree written
  unheld written unheld := by
    refine readResponse_of_not_decodes fun response decodes => ?_
    obtain ⟨content, holds, _⟩ := (decodes_iff_of_document written).1 decodes
    exact unheld content holds
  alike written writtenOther same := by
    refine alike_of_isResponse_iff written writtenOther fun response => ?_
    simp only [IsResponse, same]

/-- An empty array is an answer without series. -/
theorem readResponse_of_empty {body : String} (written : IsDocument body (.array [])) :
    readResponse body = .error (.noValues body) := by
  have decodes : Decodes body ⟨[]⟩ := ⟨_, written, none, .array rfl, .missing⟩
  exact readResponse_of_decodes decodes

end Datadog

/-! ## Prometheus -/

namespace Prometheus

/-- Answers of Prometheus are told by their data. -/
theorem readsSlot_readResponse : ReadsSlot "data" readResponse where
  unwritten unwritten := by
    refine readResponse_of_not_decodes ?_
    rintro result ⟨tree, written, _⟩
    exact unwritten tree written
  unheld written unheld := by
    refine readResponse_of_not_decodes fun result decodes => ?_
    obtain ⟨_, ⟨data, holds, _⟩, _⟩ := (decodes_iff_of_document written).1 decodes
    exact unheld (some data) holds
  alike written writtenOther same := by
    refine alike_of_isResponse_iff written writtenOther fun result => ?_
    simp only [IsResponse, HasResult, same]

/-- An empty array has no data, and cannot be decoded. -/
theorem undecodable_of_empty {body : String} (written : IsDocument body (.array [])) :
    Undecodable readResponse body := by
  refine readResponse_of_not_decodes fun result decodes => ?_
  obtain ⟨_, ⟨data, holds, _⟩, _⟩ := (decodes_iff_of_document written).1 decodes
  cases holds_array_iff.1 holds

end Prometheus

/-! ## Both -/

/-- A body cannot be decoded if nothing is written in it, a value with nothing inside, or an array
with more items than one. An empty array is an answer of Datadog without a value, and none of
Prometheus. An array with a single item ends like the object with this item as its only member. -/
theorem readResponse_of_no_object (body : String) :
    ((∀ tree, IsDocument body tree → Leaf tree) →
      Undecodable Datadog.readResponse body ∧ Undecodable Prometheus.readResponse body) ∧
      (IsDocument body (.array []) →
        Datadog.readResponse body = .error (.noValues body) ∧
          Undecodable Prometheus.readResponse body) ∧
      (∀ item other key, IsDocument body (.array [item]) →
        IsDocument other (.object [(key, item)]) →
          (Names "series" key = true →
            Alike (Datadog.readResponse body) (Datadog.readResponse other)) ∧
          (Names "data" key = true →
            Alike (Prometheus.readResponse body) (Prometheus.readResponse other))) ∧
      ∀ items, IsDocument body (.array items) → 1 < items.length →
        Undecodable Datadog.readResponse body ∧ Undecodable Prometheus.readResponse body := by
  have datadog := Datadog.readsSlot_readResponse
  have prometheus := Prometheus.readsSlot_readResponse
  refine ⟨fun leaf => ?_, fun written => ?_, fun item other key written writtenOther => ?_,
    fun items written long => ?_⟩
  · exact ⟨datadog.undecodable_of_leaf leaf, prometheus.undecodable_of_leaf leaf⟩
  · exact ⟨Datadog.readResponse_of_empty written, Prometheus.undecodable_of_empty written⟩
  · exact ⟨fun named => datadog.alike_of_singleton named written writtenOther,
      fun named => prometheus.alike_of_singleton named written writtenOther⟩
  · exact ⟨datadog.undecodable_of_long written long, prometheus.undecodable_of_long written long⟩

/-- Where an array is written in a text it has a bracket, and where an object is written a brace. -/
theorem opening_mem_of_isDocument {body : String} {tree : Spelling}
    (written : IsDocument body tree) :
    Leaf tree ∨ (∃ items, tree = .array items ∧ '[' ∈ body.toList) ∨
      ∃ members, tree = .object members ∧ '\x7b' ∈ body.toList := by
  obtain ⟨before, text, after, _, writes, _, same⟩ := written
  rw [same]
  cases writes with
  | null => exact .inl .null
  | yes | no => exact .inl (.boolean _)
  | number numeral => exact .inl (.number numeral)
  | text letters => exact .inl (.text letters)
  | array => exact .inr (.inl ⟨_, rfl, by simp⟩)
  | object => exact .inr (.inr ⟨_, rfl, by simp⟩)

/-- The word for nothing, the empty array, an array with one item beside the object with it, and an
array with two items. -/
theorem readResponse_of_no_object_null :
    (Undecodable Datadog.readResponse "null" ∧ Undecodable Prometheus.readResponse "null") ∧
      Datadog.readResponse "[]" = .error (.noValues "[]") ∧
      Undecodable Prometheus.readResponse "[]" ∧
      Alike (Prometheus.readResponse "[[[]]]") (Prometheus.readResponse "\x7b\"data\":[[]]\x7d") ∧
      Undecodable Datadog.readResponse "[null,null]" ∧
      Undecodable Prometheus.readResponse "[null,null]" := by
  have leaf : ∀ tree, IsDocument "null" tree → Leaf tree := by
    intro tree written
    rcases opening_mem_of_isDocument written with leaf | ⟨_, _, bracket⟩ | ⟨_, _, brace⟩
    · exact leaf
    · exact absurd bracket (by decide)
    · exact absurd brace (by decide)
  have empty : Writes (.array []) _ := .array (.none blank_nil)
  have nested : Writes (.array [.array []]) _ := .array (.some blank_nil empty (.done blank_nil))
  have single : IsDocument "[[[]]]" (.array [.array [.array []]]) :=
    ⟨[], _, [], blank_nil, .array (.some blank_nil nested (.done blank_nil)), blank_nil, by decide⟩
  have member : IsDocument "\x7b\"data\":[[]]\x7d"
      (.object [(plainLetters "data", .array [.array []])]) :=
    ⟨[], _, [], blank_nil, .object (.some blank_nil (.mk blank_nil blank_nil nested)
      (.done blank_nil)), blank_nil, by decide⟩
  have pair : IsDocument "[null,null]" (.array [.null, .null]) :=
    ⟨[], _, [], blank_nil, .array (.some blank_nil .null (.more blank_nil blank_nil .null
      (.done blank_nil))), blank_nil, by decide⟩
  have nothing := (readResponse_of_no_object "[]").2.1 ⟨[], _, [], blank_nil, empty, blank_nil, rfl⟩
  refine ⟨(readResponse_of_no_object "null").1 leaf, nothing.1, nothing.2, ?_,
    (readResponse_of_no_object "[null,null]").2.2.2 _ pair (by decide)⟩
  exact ((readResponse_of_no_object "[[[]]]").2.2.1 _ _ _ single member).2 rfl

/-- Bodies without any object that are taken for an answer without a value, and for one with a
value. -/
theorem readResponse_takes_bare_arrays :
    (∀ body ∈ ["[]", "[[[[[1,9]]]]]", "[[[]]]", "[[[1,\"5\"]]]"], ∀ members,
      ¬ IsDocument body (.object members)) ∧
      Datadog.readResponse "[]" = .error (.noValues "[]") ∧
      Datadog.readResponse "[[[[[1,9]]]]]" = .ok (Binary64.ofInt 9) ∧
      Prometheus.readResponse "[[[]]]" = .error (.noValues "[[[]]]") ∧
      Prometheus.readResponse "[[[1,\"5\"]]]" = .ok (Binary64.ofInt 5) := by
  have noBrace : ∀ body ∈ ["[]", "[[[[[1,9]]]]]", "[[[]]]", "[[[1,\"5\"]]]"],
      '\x7b' ∉ body.toList := by
    decide +kernel
  refine ⟨fun body inside members written => ?_, ?_, ?_, ?_, ?_⟩
  · rcases opening_mem_of_isDocument written with leaf | ⟨_, same, _⟩ | ⟨_, _, brace⟩
    · cases leaf
    · cases same
    · exact noBrace body inside brace
  all_goals decide +kernel

end MetricProbe
